import EnvAudit.Grammar.FineState

/-!
# Joining fine states

Fine states of one core are joined into a group if nothing tells them apart:
they do the same on the tokens that they share, what is behind their exits is
joined as well, and no token of one could be mistaken for a token of another.
-/

namespace EnvAudit.Grammar

/-- What has to be known to join fine states. -/
structure JoinTask where
  fine : FineStates
  tokenCount : Nat
  /-- For each token those that it could be mistaken for. -/
  conflicts : Array TokenSet
  /-- Tokens that may not be added to a state. -/
  exclusive : TokenSet

/-- A division of the fine states into groups. -/
structure Groups where
  members : Array (Array Nat)
  /-- The group of each fine state. -/
  groupOf : Array Nat

/-- What the members of a group have in common. -/
structure Joint where
  valid : TokenSet := ∅
  entries : List Entry := []
  /-- The groups behind the exits of the core, as far as they are known. -/
  behind : Array (Option Nat) := #[]
  deriving Inhabited

namespace JoinTask

/-- Whether what is done on shared tokens is the same. -/
def entriesAgree (first second : List Entry) : Bool :=
  first.all fun a => second.all fun b => a.actions = b.actions || !a.tokens.meets b.tokens

/-- Whether one of the new tokens may not be added to the others. -/
def clashes (task : JoinTask) (new others : TokenSet) : Bool :=
  !new.isEmpty &&
    (new.meets task.exclusive ||
      new.toList.any fun token => (task.conflicts.getD token ∅).meets others)

/-- The group behind an exit of a fine state.  Where the state does not take
the token there is none. -/
def groupBehind? (task : JoinTask) (groups : Groups) (state : FineState) (exit : Exit)
    (i : Nat) : Option Nat :=
  if exit.symbol < task.tokenCount && !state.taken.contains exit.symbol then none
  else groups.groupOf[state.targets.getD i 0]?

/-- Whether what is behind the exits agrees.  If `phrases` is not set, only
tokens are looked at. -/
def exitsAgree (task : JoinTask) (groups : Groups) (exits : Array Exit) (phrases : Bool)
    (joint : Joint) (state : FineState) : Bool :=
  exits.size.all fun i _ =>
    match joint.behind.getD i none with
    | none => true
    | some group =>
        groups.groupOf.getD (state.targets.getD i 0) 0 = group ||
          (if exits[i].symbol < task.tokenCount then !state.taken.contains exits[i].symbol
          else !phrases)

/-- Whether a fine state may join a group. -/
def mayJoin (task : JoinTask) (groups : Groups) (exits : Array Exit) (joint : Joint)
    (state : FineState) : Bool :=
  entriesAgree joint.entries state.entries &&
    !task.clashes (state.valid \ joint.valid) joint.valid &&
    !task.clashes (joint.valid \ state.valid) state.valid &&
    task.exitsAgree groups exits false joint state

/-- Adds a fine state to what the members of a group have in common. -/
def join (task : JoinTask) (groups : Groups) (exits : Array Exit) (joint : Joint)
    (state : FineState) : Joint where
  valid := joint.valid ∪ state.valid
  entries := state.entries.foldl Entry.insert joint.entries
  behind :=
    if joint.behind.isEmpty then
      exits.mapIdx fun i exit => task.groupBehind? groups state exit i
    else if (state.taken \ joint.valid).isEmpty then
      joint.behind
    else
      joint.behind.mapIdx fun i known => match known with
        | some group => some group
        | none => task.groupBehind? groups state (exits.getD i default) i

/-- The exits of the core of a group. -/
def exitsOf (task : JoinTask) (members : Array Nat) : Array Exit :=
  (task.fine.core (task.fine.state (members.getD 0 0)).core).exits

/-- Splits off the members of a group that do not fit those before them, and
tells whether there are any.  Once the groups have been formed, only what is
behind the exits can still tell members apart. -/
def splitGroup (task : JoinTask) (formed : Bool) (number : Nat) (groups : Groups) :
    Bool × Groups := Id.run do
  let members := groups.members.getD number #[]
  if members.size ≤ 1 then
    return (false, groups)
  let exits := task.exitsOf members
  let mut joint : Joint := {}
  let mut kept : Array Nat := #[]
  let mut split : Array Nat := #[]
  for member in members do
    let state := task.fine.state member
    let fits := kept.isEmpty ||
      if formed then task.exitsAgree groups exits true joint state
      else task.mayJoin groups exits joint state
    if fits then
      kept := kept.push member
      joint := task.join groups exits joint state
    else
      split := split.push member
  if split.isEmpty then
    return (false, groups)
  let new := groups.members.size
  return (true, {
    members := (groups.members.setIfInBounds number kept).push split
    groupOf := split.foldl (·.setIfInBounds · new) groups.groupOf })

/-- Splits all groups from the given one on, those that come of it included. -/
def splitFrom (task : JoinTask) (formed : Bool) :
    (fuel number : Nat) → (changed : Bool) → Groups → Bool × Groups
  | 0, _, changed, groups => (changed, groups)
  | fuel + 1, number, changed, groups =>
      if number < groups.members.size then
        let (split, groups) := task.splitGroup formed number groups
        splitFrom task formed fuel (number + 1) (changed || split) groups
      else
        (changed, groups)

/-- Splits groups until none has to be split. -/
def refine (task : JoinTask) : (fuel : Nat) → Groups → Groups
  | 0, groups => groups
  | fuel + 1, groups =>
      let (changed, groups) := task.splitFrom true FineStates.maxCount 0 false groups
      if changed then refine task fuel groups else groups

/-- The fine states by core. -/
def byCore (fine : FineStates) : Groups :=
  let groupOf := fine.states.map (·.core)
  let empty : Array (Array Nat) := Array.replicate fine.cores.size #[]
  { groupOf
    members := fine.states.size.fold (fun number _ members =>
      members.modify (groupOf.getD number 0) (·.push number)) empty }

/-- The groups of fine states that become one. -/
def groups (task : JoinTask) : Groups :=
  let (_, groups) := task.splitFrom false FineStates.maxCount 0 false (byCore task.fine)
  task.refine task.fine.states.size groups

/-- What the members of a group have in common. -/
def jointOf (task : JoinTask) (groups : Groups) (members : Array Nat) : Joint :=
  let exits := task.exitsOf members
  members.foldl (fun joint member => task.join groups exits joint (task.fine.state member)) {}

end JoinTask

end EnvAudit.Grammar
