/-!
# Sets of tokens

Tokens are numbered.  A set of them is written in the bits of one number.
-/

namespace EnvAudit.Grammar

/-- A set of numbered tokens. -/
structure TokenSet where
  /-- Bit `n` says whether token `n` is a member. -/
  bits : Nat
  deriving BEq, DecidableEq, Inhabited

namespace TokenSet

instance : EmptyCollection TokenSet where
  emptyCollection := ⟨0⟩

instance : Union TokenSet where
  union first second := ⟨first.bits ||| second.bits⟩

instance : Inter TokenSet where
  inter first second := ⟨first.bits &&& second.bits⟩

instance : SDiff TokenSet where
  sdiff first second := ⟨(first.bits ||| second.bits) ^^^ second.bits⟩

/-- Large sets spread over all remainders of a prime. -/
instance : Hashable TokenSet where
  hash tokens := (tokens.bits % 2305843009213693951).toUInt64

def single (token : Nat) : TokenSet :=
  ⟨1 <<< token⟩

/-- The tokens with numbers less than `count`. -/
def below (count : Nat) : TokenSet :=
  ⟨1 <<< count - 1⟩

def contains (tokens : TokenSet) (token : Nat) : Bool :=
  tokens.bits.testBit token

def isEmpty (tokens : TokenSet) : Bool :=
  tokens.bits == 0

def insert (tokens : TokenSet) (token : Nat) : TokenSet :=
  tokens ∪ single token

/-- Whether the sets have a member in common. -/
def meets (first second : TokenSet) : Bool :=
  !(first ∩ second).isEmpty

def ofList (tokens : List Nat) : TokenSet :=
  tokens.foldl insert ∅

/-- The places of the bits of a number, in front of the given ones. -/
def bitsOf (bits : Nat) (higher : List Nat) : List Nat :=
  if _zero : bits = 0 then higher
  else bitsOf (bits - 1 <<< bits.log2) (bits.log2 :: higher)
termination_by bits
decreasing_by
  rw [Nat.one_shiftLeft]
  exact Nat.sub_lt (Nat.pos_of_ne_zero _zero) (Nat.two_pow_pos _)

/-- The members of a set from low to high. -/
def toList (tokens : TokenSet) : List Nat :=
  bitsOf tokens.bits []

/-- The union of the sets at the members. -/
def unionAt (sets : Array TokenSet) (tokens : TokenSet) : TokenSet :=
  tokens.toList.foldl (fun union token => union ∪ sets.getD token ∅) ∅

@[simp]
theorem contains_empty (token : Nat) : (∅ : TokenSet).contains token = false := by
  simp [contains, EmptyCollection.emptyCollection]

@[simp]
theorem contains_union (first second : TokenSet) (token : Nat) :
    (first ∪ second).contains token = (first.contains token || second.contains token) := by
  simp [contains, Union.union]

@[simp]
theorem contains_inter (first second : TokenSet) (token : Nat) :
    (first ∩ second).contains token = (first.contains token && second.contains token) := by
  simp [contains, Inter.inter]

@[simp]
theorem contains_sdiff (first second : TokenSet) (token : Nat) :
    (first \ second).contains token = (first.contains token && !second.contains token) := by
  simp [contains, SDiff.sdiff]
  cases first.bits.testBit token <;> cases second.bits.testBit token <;> rfl

end TokenSet

end EnvAudit.Grammar
