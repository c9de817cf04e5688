import ChatWarden.Lexer

/-!
# Reading tokens one by one

A stream is a list of tokens split at the read position, so the position can never leave the list.
-/

namespace ChatWarden

/-- The tokens already passed, most recent first, and those still to read. -/
structure TokenStream (κ : Type) where
  passed : List (Token κ)
  ahead : List (Token κ)

namespace TokenStream

variable {κ : Type}

def ofTokens (tokens : List (Token κ)) : TokenStream κ := ⟨[], tokens⟩

def tokens (s : TokenStream κ) : List (Token κ) :=
  s.passed.reverse ++ s.ahead

def position (s : TokenStream κ) : Nat :=
  s.passed.length

def size (s : TokenStream κ) : Nat :=
  s.passed.length + s.ahead.length

def isEmpty (s : TokenStream κ) : Bool :=
  s.size == 0

def exhausted (s : TokenStream κ) : Bool :=
  s.ahead.isEmpty

def current? (s : TokenStream κ) : Option (Token κ) :=
  s.ahead.head?

/-- Passes one token; at the end nothing moves. -/
def advance (s : TokenStream κ) : TokenStream κ :=
  match s.ahead with
  | [] => s
  | t :: rest => ⟨t :: s.passed, rest⟩

/-- The token so many places ahead of the read position, or behind it. -/
def peek? (s : TokenStream κ) : Int → Option (Token κ)
  | .ofNat n => s.ahead[n]?
  | .negSucc n => s.passed[n]?

def reset (s : TokenStream κ) : TokenStream κ :=
  ofTokens s.tokens

@[simp] theorem tokens_advance (s : TokenStream κ) : s.advance.tokens = s.tokens := by
  unfold advance
  split <;> simp_all [tokens]

@[simp] theorem tokens_reset (s : TokenStream κ) : s.reset.tokens = s.tokens := by
  simp [reset, ofTokens, tokens]

theorem position_le_size (s : TokenStream κ) : s.position ≤ s.size := by
  simp [position, size]

/-- Away from the end the position moves on by one. -/
theorem position_advance {s : TokenStream κ} (h : s.exhausted = false) :
    s.advance.position = s.position + 1 := by
  unfold advance
  split <;> simp_all [exhausted, position]

end TokenStream

end ChatWarden
