import EnvAudit.Grammar.Tables

/-!
# Choices between actions

Where a text has been read up to a token, a phrase may be closed or the token
may be taken.  Where the rules leave a choice, ranks and associativities
decide; what they do not decide stays open, and all alternatives are followed.
-/

namespace EnvAudit.Grammar

/-- The end of a phrase of `count` symbols. -/
structure Reduction where
  head : Nat
  count : Nat
  dynamic : Int
  shape : Nat
  deriving BEq, Hashable, Inhabited

/-- What can be done on a token. -/
inductive Action where
  /-- Take the token.  A `repeated` one belongs to a repetition that is better
  closed first. -/
  | shift (repeated : Bool)
  /-- Take the token without a change of state. -/
  | skip
  /-- Close a phrase and look at the token again. -/
  | reduce (reduction : Reduction)
  /-- The text is complete. -/
  | accept
  deriving BEq, Hashable, Inhabited

namespace Tables

/-- Whether an entry of a ranking speaks of a precedence or of one of the
phrases. -/
def rankMatches (tables : Tables) (precedence : Precedence) (heads : List Nat) :
    Rank → Bool
  | .named name => precedence == .named name
  | .rule name => heads.any fun head => (tables.info head).rule == name

/-- Looks for the order of two ranks in one ranking. -/
def compareInRanking (tables : Tables) (left : Precedence) (leftHeads : List Nat)
    (right : Precedence) (rightHeads : List Nat) :
    (sawLeft sawRight : Bool) → List Rank → Option Ordering
  | _, _, [] => none
  | sawLeft, sawRight, entry :: entries =>
      let isLeft := tables.rankMatches left leftHeads entry
      let isRight := tables.rankMatches right rightHeads entry
      if isLeft != isRight && isLeft && sawRight then
        some .lt
      else if isLeft != isRight && isRight && sawLeft then
        some .gt
      else
        compareInRanking tables left leftHeads right rightHeads
          (sawLeft || isLeft) (sawRight || isRight) entries

/-- Compares two ranks: numbers by size, all else by the first ranking that
mentions both. -/
def comparePrecedence (tables : Tables) (left : Precedence) (leftHeads : List Nat)
    (right : Precedence) (rightHeads : List Nat) : Ordering :=
  let byRanking :=
    (tables.rankings.findSome? (tables.compareInRanking left leftHeads right rightHeads
      false false)).getD .eq
  match left, right with
  | .level a, .level b => if a != 0 || b != 0 then compare a b else byRanking
  | .level a, .none => if a != 0 then compare a 0 else byRanking
  | .none, .level b => if b != 0 then compare 0 b else byRanking
  | _, _ => byRanking

end Tables

/-- The reductions that are possible on a token, with what decides between
them and taking the token. -/
structure ReductionChoice where
  actions : List Action := []
  precedence : Precedence := .none
  heads : List Nat := []
  left : Bool := false
  right : Bool := false
  unordered : Bool := false

namespace ReductionChoice

/-- Adds one more finished phrase.  It replaces all of lower rank and is
dropped if its rank is lower. -/
def add (tables : Tables) (place : Place) (choice : ReductionChoice)
    (completion : Completion) : ReductionChoice :=
  let action : Action :=
    if place.head = tables.whole then .accept
    else .reduce ⟨place.head, place.depth, completion.dynamic, completion.shape⟩
  let mark (choice : ReductionChoice) : ReductionChoice := { choice with
    precedence := place.precedence
    heads := if choice.heads.contains place.head then choice.heads else place.head :: choice.heads
    left := choice.left || place.associativity == some .left
    right := choice.right || place.associativity == some .right
    unordered := choice.unordered || place.associativity.isNone }
  if choice.actions.isEmpty then
    mark { choice with actions := [action] }
  else
    match tables.comparePrecedence place.precedence [place.head] choice.precedence choice.heads with
    | .gt => mark { actions := [action] }
    | .eq => mark { choice with actions := choice.actions ++ [action] }
    | .lt => choice

/-- The choice between the phrases that end at the given places. -/
def ofPlaces (tables : Tables) (finished : List Nat) : ReductionChoice :=
  finished.foldl (fun choice number =>
    let place := tables.place number
    place.completions.foldl (add tables place) choice) {}

/-- Decides between closing a phrase and taking the token.  The kernel is the
list of places of begun phrases, and `finished` those places at which a phrase
may end before the token. -/
def orShift (tables : Tables) (kernel finished : List Nat) (token : Nat)
    (choice : ReductionChoice) : List Action :=
  let takes (number : Nat) : Bool := (tables.nextTokens.getD number ∅).contains token
  let heads := (kernel.filter fun number =>
    (tables.place number).head != tables.whole && (takes number || finished.contains number)).map
      fun number => (tables.place number).head
  let repetition := match heads with
    | [] => false
    | head :: rest => (tables.info head).auxiliary && rest.all (· == head)
  if repetition then
    choice.actions ++ [.shift true]
  else
    let orders := (kernel.filter fun number =>
        (tables.place number).depth != 0 && takes number).map fun number =>
      let place := tables.place number
      tables.comparePrecedence place.precedence [place.head] choice.precedence choice.heads
    let more := orders.contains .gt
    let less := orders.contains .lt
    if more && !less then
      [.shift false]
    else if less && !more then
      choice.actions
    else if !more && !less then
      match choice.left, choice.unordered, choice.right with
      | true, false, false => choice.actions
      | false, false, true => [.shift false]
      | _, _, _ => choice.actions ++ [.shift false]
    else
      choice.actions ++ [.shift false]

end ReductionChoice

end EnvAudit.Grammar
