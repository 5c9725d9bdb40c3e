import Mathlib.Data.List.Chain
import SoftKeyboard.Proofs.Document.Numerals
import SoftKeyboard.Proofs.Document.Strings

/-!
# Scanning tokens

Characters spell a list of tokens when they are lexemes of the tokens, one after the other, with any
blanks around them (`Token.Spelled`).  The scanner finds the tokens of such a text, and finds none
in any other (`Token.scan?_of_spelled`, `Token.spelled_of_scan?`).  Only two numerals can run into
one another; no two of them stand side by side in the lists it is asked for (`Token.Adjacent`).
-/

namespace SoftKeyboard.Token

/-- Whether the token is a numeral. -/
def isNumber : Token → Bool
  | .number _ => true
  | _ => false

/-- Whether the token is neither a numeral nor a string, and so has one spelling only. -/
def isMark : Token → Bool
  | .number _ | .text _ => false
  | _ => true

/-- Whether characters spell a token. -/
inductive Lexeme : Token → List Char → Prop
  | mark {t : Token} : t.isMark = true → Lexeme t t.render
  | number {n : Numeral} {cs : List Char} : n.Spelled cs → Lexeme (.number n) cs
  | text {pieces : List Piece} {value : Option String} {cs : List Char} :
    PiecesSpelled pieces cs → Denotes pieces value → Lexeme (.text value) ('"' :: (cs ++ ['"']))

/-- Whether characters spell a list of tokens, with blanks anywhere around the tokens. -/
inductive Spelled : List Token → List Char → Prop
  | nil : Spelled [] []
  | blank {tokens : List Token} {c : Char} {cs : List Char} : isBlank c = true →
    Spelled tokens cs → Spelled tokens (c :: cs)
  | token {t : Token} {tokens : List Token} {lexeme cs : List Char} : Lexeme t lexeme →
    Spelled tokens cs → Spelled (t :: tokens) (lexeme ++ cs)

/-- Whether two tokens can stand side by side without a blank: two numerals cannot. -/
def Adjacent (t u : Token) : Prop := t.isNumber → u.isNumber = false

/-! ### One token -/

/-- What a numeral can start with. -/
def StartsNumeral (c : Char) : Prop := c = '-' ∨ ∃ d : Digit, c = d.toChar

theorem exists_eq_cons_of_spelled {n : Numeral} {cs : List Char} (h : n.Spelled cs) :
    ∃ c rest, cs = c :: rest ∧ StartsNumeral c := by
  obtain ⟨hwhole, exponent, -, rfl⟩ := h
  obtain ⟨d, ds, hds⟩ := List.exists_cons_of_ne_nil hwhole.1
  rw [hds]
  cases n.negative with
  | true => exact ⟨'-', _, rfl, .inl rfl⟩
  | false => exact ⟨d.toChar, _, rfl, .inr ⟨d, rfl⟩⟩

theorem not_isBlank_of_startsNumeral {c : Char} (h : StartsNumeral c) : isBlank c = false := by
  obtain rfl | ⟨d, rfl⟩ := h
  · rfl
  · revert d
    decide

theorem next?_of_startsNumeral {c : Char} (h : StartsNumeral c) (cs : List Char) :
    next? (c :: cs) = (numeral? (c :: cs)).map fun (numeral, rest) => (.number numeral, rest) := by
  obtain rfl | ⟨d, rfl⟩ := h
  · rfl
  · fin_cases d <;> rfl

/-- A lexeme starts with a character that is no blank and, but for numerals, parts with a numeral
before it. -/
theorem Lexeme.exists_eq_cons {t : Token} {lexeme : List Char} (h : Lexeme t lexeme) :
    ∃ c cs, lexeme = c :: cs ∧ isBlank c = false ∧
      (t.isNumber = false → ∀ rest, Parts (c :: rest)) := by
  have hparts (c : Char) (hc : Digit.ofChar? c = none ∧ c ≠ '.' ∧ c ≠ 'e' ∧ c ≠ 'E') :
      ∀ rest, Parts (c :: rest) := by
    rintro rest _ ⟨⟩
    exact hc
  cases h with
  | mark hmark =>
    match t with
    | .leftBrace | .rightBrace | .leftBracket | .rightBracket | .colon | .comma | .null
    | .bool true | .bool false => exact ⟨_, _, rfl, rfl, fun _ => hparts _ (by decide)⟩
  | number hspelled =>
    obtain ⟨c, rest, rfl, hc⟩ := exists_eq_cons_of_spelled hspelled
    exact ⟨c, rest, rfl, not_isBlank_of_startsNumeral hc, nofun⟩
  | text => exact ⟨'"', _, rfl, rfl, fun _ => hparts _ (by decide)⟩

/-- **A token is scanned off any of its lexemes.** -/
theorem next?_of_lexeme {t : Token} {lexeme : List Char} (ht : Lexeme t lexeme) {rest : List Char}
    (h : t.isNumber → Parts rest) : next? (lexeme ++ rest) = some (t, rest) := by
  cases ht with
  | mark hmark =>
    match t with
    | .leftBrace | .rightBrace | .leftBracket | .rightBracket | .colon | .comma | .null
    | .bool true | .bool false => rfl
  | number hspelled =>
    have hscan := numeral?_of_spelled hspelled (h rfl)
    obtain ⟨c, cs, rfl, hc⟩ := exists_eq_cons_of_spelled hspelled
    rw [List.cons_append] at hscan ⊢
    rw [next?_of_startsNumeral hc, hscan]
    rfl
  | text hpieces hdenotes =>
    have hscan := pieces?_of_spelled hpieces rest
    have hvalue := (denotes_iff hpieces.unit_lt _).1 hdenotes
    simp [next?, hscan, hvalue]

/-- **What is scanned at the front of a text is a lexeme.** -/
theorem lexeme_of_next? {cs rest : List Char} {t : Token} (h : next? cs = some (t, rest)) :
    ∃ lexeme, Lexeme t lexeme ∧ cs = lexeme ++ rest := by
  unfold next? at h
  split at h
  case h_10 =>
    obtain ⟨⟨pieces, _⟩, hpieces, heq⟩ := Option.map_eq_some_iff.1 h
    obtain ⟨rfl, rfl⟩ := Prod.mk.inj heq
    obtain ⟨spelling, hspelling, rfl⟩ := spelled_of_pieces? hpieces
    exact ⟨_, .text hspelling ((denotes_iff hspelling.unit_lt _).2 rfl), by simp⟩
  case h_11 =>
    obtain ⟨⟨n, _⟩, hn, heq⟩ := Option.map_eq_some_iff.1 h
    obtain ⟨rfl, rfl⟩ := Prod.mk.inj heq
    obtain ⟨spelling, hspelling, rfl⟩ := spelled_of_numeral? hn
    exact ⟨spelling, .number hspelling, rfl⟩
  all_goals
    obtain ⟨rfl, rfl⟩ := Prod.mk.inj (Option.some.inj h)
    exact ⟨_, .mark rfl, rfl⟩

/-! ### Lists of tokens -/

/-- A text that spells no numeral first does not carry on with one before it. -/
theorem parts_of_spelled {tokens : List Token} {cs : List Char} (h : Spelled tokens cs)
    (hhead : ∀ t ∈ tokens.head?, t.isNumber = false) : Parts cs := by
  cases h with
  | nil => exact parts_nil
  | @blank _ c _ hblank _ =>
    rintro _ ⟨⟩
    simp only [isBlank, Bool.or_eq_true, decide_eq_true_eq] at hblank
    obtain ((rfl | rfl) | rfl) | rfl := hblank <;> decide
  | token hlexeme _ =>
    obtain ⟨c, cs, rfl, -, hparts⟩ := hlexeme.exists_eq_cons
    exact hparts (hhead _ rfl) _

/-- As many steps as a text has characters are enough to scan it. -/
theorem scanSteps?_of_spelled {tokens : List Token} {cs : List Char} (h : Spelled tokens cs)
    (hadjacent : tokens.IsChain Adjacent) {steps : Nat} (hsteps : cs.length ≤ steps) :
    scanSteps? steps cs = some tokens := by
  induction h generalizing steps with
  | nil => cases steps <;> rfl
  | blank hblank _ ih =>
    obtain ⟨steps, rfl⟩ : ∃ n, steps = n + 1 := ⟨steps - 1, by simp at hsteps; omega⟩
    have hrest := ih hadjacent (Nat.le_of_succ_le_succ hsteps)
    simp [scanSteps?, hblank, hrest]
  | @token _ tokens _ rest hlexeme hspelled ih =>
    obtain ⟨hnext, hadjacent⟩ := List.isChain_cons.1 hadjacent
    have hscan := next?_of_lexeme hlexeme fun hnumber =>
      parts_of_spelled hspelled fun u hu => hnext u hu hnumber
    obtain ⟨c, cs, rfl, hblank, -⟩ := hlexeme.exists_eq_cons
    rw [List.cons_append] at hsteps hscan ⊢
    obtain ⟨steps, rfl⟩ : ∃ n, steps = n + 1 := ⟨steps - 1, by simp at hsteps; omega⟩
    have hlength : cs.length + rest.length ≤ steps := by simpa using hsteps
    have hrest : scanSteps? steps rest = some tokens := ih hadjacent (by omega)
    simp [scanSteps?, hblank, hscan, hrest]

/-- **A text that spells a list of tokens is scanned as that list.** -/
theorem scan?_of_spelled {tokens : List Token} {cs : List Char} (h : Spelled tokens cs)
    (hadjacent : tokens.IsChain Adjacent) : scan? cs = some tokens :=
  scanSteps?_of_spelled h hadjacent le_rfl

theorem spelled_of_scanSteps? {steps : Nat} {cs : List Char} {tokens : List Token}
    (h : scanSteps? steps cs = some tokens) : Spelled tokens cs := by
  induction steps generalizing cs tokens with
  | zero =>
    cases cs with
    | nil =>
      obtain rfl := Option.some.inj h
      exact .nil
    | cons c cs => cases h
  | succ steps ih =>
    cases cs with
    | nil =>
      obtain rfl := Option.some.inj h
      exact .nil
    | cons c cs =>
      rw [scanSteps?] at h
      split at h
      · next hblank => exact .blank hblank (ih h)
      · obtain ⟨⟨t, rest⟩, hnext, h⟩ := Option.bind_eq_some_iff.1 h
        obtain ⟨tokens, hrest, h⟩ := Option.bind_eq_some_iff.1 h
        obtain rfl := Option.some.inj h
        obtain ⟨lexeme, hlexeme, hcs⟩ := lexeme_of_next? hnext
        rw [hcs]
        exact .token hlexeme (ih hrest)

/-- **A text that is scanned spells the tokens that are found.** -/
theorem spelled_of_scan? {cs : List Char} {tokens : List Token} (h : scan? cs = some tokens) :
    Spelled tokens cs := spelled_of_scanSteps? h

/-! ### Rendering -/

/-- Whether a text can hold the token as it is. -/
def WellFormed : Token → Prop
  | .number numeral => numeral.WellFormed
  | .text none => False
  | _ => True

/-- A token that a text can hold is spelled by what is rendered of it. -/
theorem lexeme_render {t : Token} (h : t.WellFormed) : Lexeme t t.render := by
  match t with
  | .leftBrace | .rightBrace | .leftBracket | .rightBracket | .colon | .comma | .null
  | .bool _ => exact .mark rfl
  | .number numeral => exact .number (Numeral.spelled_render h)
  | .text (some value) =>
    obtain ⟨pieces, hpieces, hunits⟩ := exists_spelled_flatMap value.toList
    refine .text hpieces ((denotes_iff hpieces.unit_lt _).2 ?_)
    rw [(join?_eq_some_iff hpieces.unit_lt _).2 hunits, Option.map_some, String.ofList_toList]

/-- Rendered tokens spell their list. -/
theorem spelled_flatMap_render {tokens : List Token} (h : ∀ t ∈ tokens, t.WellFormed) :
    Spelled tokens (tokens.flatMap render) := by
  induction tokens with
  | nil => exact .nil
  | cons t tokens ih =>
    have ht := lexeme_render (h t List.mem_cons_self)
    exact .token ht (ih fun u hu => h u (List.mem_cons_of_mem t hu))

end SoftKeyboard.Token
