import Mathlib.Data.List.Basic
import SoftKeyboard.Document.Token

/-!
# How strings are spelled

Between its quotes a string is a row of pieces, each a plain character or an escape
(`Token.PiecesSpelled`).  Pieces stand for the text with the same 16-bit units, if there is one
(`Token.Denotes`); that is the text the scanner joins them to (`Token.denotes_iff`).
-/

namespace SoftKeyboard.Token

/-! ### Units -/

/-- The 16-bit units of a character: one, or a surrogate pair. -/
def utf16 (c : Char) : List Nat :=
  if c.toNat < 0x10000 then [c.toNat]
  else [0xd800 + (c.toNat - 0x10000) / 0x400, 0xdc00 + (c.toNat - 0x10000) % 0x400]

/-- A character is no surrogate and at most `0x10ffff`. -/
theorem toNat_cases (c : Char) :
    c.toNat < 0xd800 ∨ 0xdfff < c.toNat ∧ c.toNat < 0x110000 := c.valid

theorem toNat_ofNat_of_valid {n : Nat} (h : n.isValidChar) : (Char.ofNat n).toNat = n := by
  rw [Char.ofNat, dif_pos h]
  rfl

/-- A unit that is no half of a pair is the only one of its character. -/
theorem utf16_ofNat {value : Nat} (h : value < 0x10000) (hhigh : isHigh value = false)
    (hlow : isLow value = false) : utf16 (Char.ofNat value) = [value] := by
  simp only [isHigh, isLow, Bool.and_eq_false_iff, decide_eq_false_iff_not] at hhigh hlow
  have hvalid : value.isValidChar := by
    simp only [Nat.isValidChar]
    omega
  rw [utf16, toNat_ofNat_of_valid hvalid, if_pos h]

/-- The two halves of a pair are the units of its character. -/
theorem utf16_pair {high low : Nat} (hhigh : isHigh high = true) (hlow : isLow low = true) :
    utf16 (Char.ofNat (0x10000 + 0x400 * (high - 0xd800) + (low - 0xdc00))) = [high, low] := by
  simp only [isHigh, isLow, Bool.and_eq_true, decide_eq_true_eq] at hhigh hlow
  have hvalid : (0x10000 + 0x400 * (high - 0xd800) + (low - 0xdc00)).isValidChar := by
    simp only [Nat.isValidChar]
    omega
  have hfirst : 0xd800 + (0x400 * (high - 0xd800) + (low - 0xdc00)) / 0x400 = high := by omega
  have hsecond : 0xdc00 + (0x400 * (high - 0xd800) + (low - 0xdc00)) % 0x400 = low := by omega
  rw [utf16, toNat_ofNat_of_valid hvalid, if_neg (by omega), Nat.add_assoc,
    Nat.add_sub_cancel_left, hfirst, hsecond]

/-- The units of a character tell it, and where they end. -/
theorem utf16_append_inj {c d : Char} {u v : List Nat} (h : utf16 c ++ u = utf16 d ++ v) :
    c = d ∧ u = v := by
  have hc := toNat_cases c
  have hd := toNat_cases d
  unfold utf16 at h
  split_ifs at h with hcsmall hdsmall hdsmall
  · obtain ⟨heq, rfl⟩ := List.cons.inj h
    exact ⟨Char.toNat_inj.1 heq, rfl⟩
  · have heq := (List.cons.inj h).1
    omega
  · have heq := (List.cons.inj h).1
    omega
  · obtain ⟨hfirst, h⟩ := List.cons.inj h
    obtain ⟨hsecond, rfl⟩ := List.cons.inj h
    refine ⟨Char.toNat_inj.1 ?_, rfl⟩
    omega

/-- A text starts with a character if its units start with those of the character. -/
theorem utf16_append_eq_flatMap_iff {c : Char} {u : List Nat} {cs : List Char} :
    utf16 c ++ u = cs.flatMap utf16 ↔ ∃ rest, cs = c :: rest ∧ u = rest.flatMap utf16 := by
  constructor
  · intro h
    cases cs with
    | nil =>
      have hnil := congrArg List.length h
      unfold utf16 at hnil
      split at hnil <;> simp at hnil
    | cons d rest =>
      obtain ⟨rfl, hu⟩ := utf16_append_inj (h.trans List.flatMap_cons)
      exact ⟨rest, rfl, hu⟩
  · rintro ⟨rest, rfl, rfl⟩
    rw [List.flatMap_cons]

/-- Behind the first half of a pair a text has a second one. -/
theorem exists_isLow_of_isHigh {high : Nat} (hhigh : isHigh high = true) {u : List Nat}
    {cs : List Char} (h : high :: u = cs.flatMap utf16) :
    ∃ low rest, u = low :: rest ∧ isLow low = true := by
  simp only [isHigh, Bool.and_eq_true, decide_eq_true_eq] at hhigh
  cases cs with
  | nil => cases h
  | cons c cs =>
    have hc := toNat_cases c
    rw [List.flatMap_cons, utf16] at h
    split_ifs at h with hsmall
    · have heq := (List.cons.inj h).1
      omega
    · refine ⟨_, _, (List.cons.inj h).2, ?_⟩
      simp only [isLow, Bool.and_eq_true, decide_eq_true_eq]
      omega

/-- No text starts with the second half of a pair. -/
theorem not_isLow_of_flatMap {low : Nat} {u : List Nat} {cs : List Char}
    (h : low :: u = cs.flatMap utf16) : isLow low = false := by
  simp only [isLow, Bool.and_eq_false_iff, decide_eq_false_iff_not]
  cases cs with
  | nil => cases h
  | cons c cs =>
    have hc := toNat_cases c
    rw [List.flatMap_cons, utf16] at h
    split_ifs at h with hsmall
    · have heq := (List.cons.inj h).1
      omega
    · have heq := (List.cons.inj h).1
      omega

/-! ### Pieces -/

/-- The 16-bit units of a piece. -/
def Piece.units : Piece → List Nat
  | .char c => utf16 c
  | .unit value => [value]

/-- Whether characters spell a piece: a plain character, an escape of one letter, or an escape of
four hexadecimal digits. -/
inductive Piece.Spelled : Piece → List Char → Prop
  | plain {c : Char} : 32 ≤ c.toNat → c ≠ '"' → c ≠ '\\' → Spelled (.char c) [c]
  | letter {letter c : Char} : escape? letter = some c → Spelled (.char c) ['\\', letter]
  | unit {a b c d : Char} {value : Nat} : unit? a b c d = some value →
    Spelled (.unit value) ['\\', 'u', a, b, c, d]

/-- Whether characters spell a row of pieces. -/
inductive PiecesSpelled : List Piece → List Char → Prop
  | nil : PiecesSpelled [] []
  | cons {piece : Piece} {pieces : List Piece} {spelling rest : List Char} :
    piece.Spelled spelling → PiecesSpelled pieces rest →
      PiecesSpelled (piece :: pieces) (spelling ++ rest)

/-- Every spelling of pieces is scanned as those pieces, up to the closing quote. -/
theorem pieces?_of_spelled {pieces : List Piece} {cs : List Char} (h : PiecesSpelled pieces cs)
    (rest : List Char) : pieces? (cs ++ '"' :: rest) = some (pieces, rest) := by
  induction h with
  | nil => rfl
  | cons hpiece _ ih =>
    rw [List.append_assoc]
    cases hpiece with
    | @plain c hc hquote hbackslash =>
      show pieces? (c :: (_ ++ '"' :: rest)) = _
      rw [pieces?, if_neg (by omega), ih]
      · rfl
      · exact hquote
      · exact fun _ _ _ _ _ h _ => hbackslash h
      · exact fun _ _ h _ => hbackslash h
    | @letter letter c hescape =>
      have hu : letter ≠ 'u' := by
        rintro rfl
        cases hescape
      show pieces? ('\\' :: letter :: (_ ++ '"' :: rest)) = _
      rw [pieces?, hescape, ih]
      · rfl
      · exact fun _ _ _ _ _ h _ => hu h
    | @unit a b c d value hvalue =>
      show pieces? ('\\' :: 'u' :: a :: b :: c :: d :: (_ ++ '"' :: rest)) = _
      rw [pieces?, hvalue, ih]
      rfl

/-- The pieces of a string are scanned off one of their spellings. -/
theorem spelled_of_pieces? {cs rest : List Char} {pieces : List Piece}
    (h : pieces? cs = some (pieces, rest)) :
    ∃ spelling, PiecesSpelled pieces spelling ∧ cs = spelling ++ '"' :: rest := by
  fun_induction pieces? cs generalizing pieces with
  | case1 => cases h
  | case2 cs =>
    obtain ⟨rfl, rfl⟩ := Prod.mk.inj (Option.some.inj h)
    exact ⟨[], .nil, rfl⟩
  | case3 a b c d cs ih =>
    obtain ⟨value, hvalue, h⟩ := Option.bind_eq_some_iff.1 h
    obtain ⟨⟨pieces, _⟩, hpieces, h⟩ := Option.bind_eq_some_iff.1 h
    obtain ⟨rfl, rfl⟩ := Prod.mk.inj (Option.some.inj h)
    obtain ⟨spelling, hspelling, rfl⟩ := ih hpieces
    exact ⟨_, .cons (.unit hvalue) hspelling, rfl⟩
  | case4 letter cs hu ih =>
    obtain ⟨c, hescape, h⟩ := Option.bind_eq_some_iff.1 h
    obtain ⟨⟨pieces, _⟩, hpieces, h⟩ := Option.bind_eq_some_iff.1 h
    obtain ⟨rfl, rfl⟩ := Prod.mk.inj (Option.some.inj h)
    obtain ⟨spelling, hspelling, rfl⟩ := ih hpieces
    exact ⟨_, .cons (.letter hescape) hspelling, rfl⟩
  | case5 c cs hquote hunit hletter hcontrol => cases h
  | case6 c cs hquote hunit hletter hcontrol ih =>
    obtain ⟨⟨pieces, _⟩, hpieces, h⟩ := Option.bind_eq_some_iff.1 h
    obtain ⟨rfl, rfl⟩ := Prod.mk.inj (Option.some.inj h)
    obtain ⟨spelling, hspelling, rfl⟩ := ih hpieces
    have hbackslash : c ≠ '\\' := by
      rintro rfl
      obtain ⟨letter, cs, hcs⟩ := List.exists_cons_of_ne_nil
        (List.append_ne_nil_of_right_ne_nil spelling (List.cons_ne_nil '"' _))
      exact hletter letter cs rfl hcs
    exact ⟨_, .cons (.plain (by omega) hquote hbackslash) hspelling, rfl⟩

/-! ### Texts -/

/-- Whether pieces stand for a text: it has the same units.  Pieces without such a text stand for
none. -/
def Denotes (pieces : List Piece) (value : Option String) : Prop :=
  ∀ s : String, value = some s ↔ pieces.flatMap Piece.units = s.toList.flatMap utf16

theorem hexDigit?_lt {c : Char} {value : Nat} (h : hexDigit? c = some value) : value < 16 := by
  have hcode (d : Char) : c ≤ d → c.toNat ≤ d.toNat := UInt32.le_iff_toNat_le.1
  unfold hexDigit? at h
  split_ifs at h with hdigit hlower hupper
  · have : c.toNat ≤ 57 := hcode '9' hdigit.2
    have := Option.some.inj h
    omega
  · have : c.toNat ≤ 102 := hcode 'f' hlower.2
    have := Option.some.inj h
    omega
  · have : c.toNat ≤ 70 := hcode 'F' hupper.2
    have := Option.some.inj h
    omega

theorem unit?_lt {a b c d : Char} {value : Nat} (h : unit? a b c d = some value) :
    value < 0x10000 := by
  obtain ⟨p, hp, h⟩ := Option.bind_eq_some_iff.1 h
  obtain ⟨q, hq, h⟩ := Option.bind_eq_some_iff.1 h
  obtain ⟨r, hr, h⟩ := Option.bind_eq_some_iff.1 h
  obtain ⟨s, hs, h⟩ := Option.bind_eq_some_iff.1 h
  have := hexDigit?_lt hp
  have := hexDigit?_lt hq
  have := hexDigit?_lt hr
  have := hexDigit?_lt hs
  have := Option.some.inj h
  omega

/-- The units that escapes give have 16 bits. -/
theorem PiecesSpelled.unit_lt {pieces : List Piece} {cs : List Char} (h : PiecesSpelled pieces cs) :
    ∀ value, .unit value ∈ pieces → value < 0x10000 := by
  induction h with
  | nil => exact fun _ h => nomatch h
  | cons hpiece _ ih =>
    intro value hvalue
    rcases List.mem_cons.1 hvalue with rfl | hvalue
    · cases hpiece with
      | unit hunit => exact unit?_lt hunit
    · exact ih value hvalue

/-- Only a unit has the second half of a pair as its first unit. -/
theorem exists_unit_of_isLow {pieces : List Piece} {low : Nat} {u : List Nat}
    (hlow : isLow low = true) (h : pieces.flatMap Piece.units = low :: u) :
    ∃ rest, pieces = .unit low :: rest := by
  match pieces with
  | [] => cases h
  | .unit value :: rest =>
    obtain rfl := (List.cons.inj h).1
    exact ⟨rest, rfl⟩
  | .char c :: rest =>
    -- A text that starts with `c` would start with the second half of a pair.
    exfalso
    rw [List.flatMap_cons, Piece.units] at h
    have hc := toNat_cases c
    simp only [isLow, Bool.and_eq_true, decide_eq_true_eq] at hlow
    unfold utf16 at h
    split_ifs at h
    · have heq := (List.cons.inj h).1
      omega
    · have heq := (List.cons.inj h).1
      omega

/-- A character in front of joined pieces is in front of their text. -/
theorem map_cons_eq_some_iff {joined : Option (List Char)} {u : List Nat}
    (h : ∀ cs, joined = some cs ↔ u = cs.flatMap utf16) (c : Char) (cs : List Char) :
    joined.map (c :: ·) = some cs ↔ utf16 c ++ u = cs.flatMap utf16 := by
  simp only [utf16_append_eq_flatMap_iff, Option.map_eq_some_iff, h]
  constructor
  · rintro ⟨rest, hu, rfl⟩
    exact ⟨rest, rfl, hu⟩
  · rintro ⟨rest, rfl, hu⟩
    exact ⟨rest, hu, rfl⟩

/-- No text starts with a half of a pair that is not the first with the second behind it. -/
theorem flatMap_units_ne {value : Nat} {rest : List Piece}
    (hhalf : isHigh value = true ∨ isLow value = true)
    (hrest : ∀ low after, isHigh value = true → rest = .unit low :: after → isLow low = false)
    (cs : List Char) : (Piece.unit value :: rest).flatMap Piece.units ≠ cs.flatMap utf16 := by
  intro h
  change value :: rest.flatMap Piece.units = _ at h
  have hlow : isLow value = false := not_isLow_of_flatMap h
  have hhigh : isHigh value = true := hhalf.resolve_right (by simp [hlow])
  obtain ⟨low, u, hunits, hsecond⟩ := exists_isLow_of_isHigh hhigh h
  obtain ⟨after, rfl⟩ := exists_unit_of_isLow hsecond hunits
  exact absurd hsecond (by simp [hrest low after hhigh rfl])

/-- **Pieces are joined to the text with their units.** -/
theorem join?_eq_some_iff {pieces : List Piece}
    (h : ∀ value, .unit value ∈ pieces → value < 0x10000) (cs : List Char) :
    join? pieces = some cs ↔ pieces.flatMap Piece.units = cs.flatMap utf16 := by
  fun_induction join? pieces generalizing cs with
  | case1 =>
    cases cs with
    | nil => simp
    | cons c cs =>
      have hne : ([] : List Nat) ≠ (c :: cs).flatMap utf16 := by
        rw [List.flatMap_cons, utf16]
        split <;> simp
      simpa using hne
  | case2 c rest ih =>
    exact map_cons_eq_some_iff (ih fun value hvalue => h value (List.mem_cons_of_mem _ hvalue)) c cs
  | case3 high low rest hhigh hlow ih =>
    have hrest := ih fun value hvalue =>
      h value (List.mem_cons_of_mem _ (List.mem_cons_of_mem _ hvalue))
    have hpair := map_cons_eq_some_iff hrest
      (Char.ofNat (0x10000 + 0x400 * (high - 0xd800) + (low - 0xdc00))) cs
    rw [utf16_pair hhigh hlow] at hpair
    exact hpair
  | case4 high low rest hhigh hlow =>
    refine iff_of_false nofun (flatMap_units_ne (.inl hhigh) (fun low' after _ heq => ?_) cs)
    obtain rfl : low = low' := by simpa using (List.cons.inj heq).1
    simpa using hlow
  | case5 high low rest hhigh hlow =>
    exact iff_of_false nofun
      (flatMap_units_ne (.inr hlow) (fun _ _ h _ => absurd h hhigh) cs)
  | case6 high low rest hhigh hlow ih =>
    have hrest := ih fun value hvalue => h value (List.mem_cons_of_mem _ hvalue)
    have hunit := map_cons_eq_some_iff hrest (Char.ofNat high) cs
    rw [utf16_ofNat (h high List.mem_cons_self) (by simpa using hhigh) (by simpa using hlow)]
      at hunit
    exact hunit
  | case7 value rest hrest hhalf =>
    exact iff_of_false nofun
      (flatMap_units_ne (by simpa using hhalf) (fun low after _ heq => (hrest low after heq).elim) cs)
  | case8 value rest hrest hhalf ih =>
    have hrest := ih fun value hvalue => h value (List.mem_cons_of_mem _ hvalue)
    have hunit := map_cons_eq_some_iff hrest (Char.ofNat value) cs
    simp only [Bool.or_eq_true, not_or, Bool.not_eq_true] at hhalf
    rw [utf16_ofNat (h value List.mem_cons_self) hhalf.1 hhalf.2] at hunit
    exact hunit

/-- What pieces stand for is the text they are joined to. -/
theorem denotes_iff {pieces : List Piece} (h : ∀ value, .unit value ∈ pieces → value < 0x10000)
    (value : Option String) :
    Denotes pieces value ↔ value = (join? pieces).map String.ofList := by
  have hjoin (s : String) : (join? pieces).map String.ofList = some s ↔
      pieces.flatMap Piece.units = s.toList.flatMap utf16 := by
    rw [← join?_eq_some_iff h, Option.map_eq_some_iff]
    constructor
    · rintro ⟨cs, hcs, rfl⟩
      rw [String.toList_ofList, hcs]
    · intro hcs
      exact ⟨s.toList, hcs, String.ofList_toList⟩
  constructor
  · intro hdenotes
    exact Option.ext fun s => (hdenotes s).trans (hjoin s).symm
  · rintro rfl s
    exact hjoin s

/-! ### Rendering -/

theorem unit?_control : ∀ value < 32,
    unit? '0' '0' (hexChar (value / 16)) (hexChar (value % 16)) = some value := by
  decide

/-- The characters that have an escape of one letter, with the letter. -/
def shortEscapes : List (Char × Char) :=
  [('"', '"'), ('\\', '\\'), ('\x08', 'b'), ('\t', 't'), ('\n', 'n'), ('\x0c', 'f'), ('\r', 'r')]

theorem encodeChar_of_mem : ∀ escape ∈ shortEscapes,
    encodeChar escape.1 = ['\\', escape.2] ∧ escape? escape.2 = some escape.1 := by
  decide

theorem encodeChar_of_notMem {c : Char} (h : ∀ escape ∈ shortEscapes, c ≠ escape.1) :
    encodeChar c = if c.toNat < 32 then
      ['\\', 'u', '0', '0', hexChar (c.toNat / 16), hexChar (c.toNat % 16)] else [c] := by
  simp only [shortEscapes, List.forall_mem_cons] at h
  simp [encodeChar, h]

/-- What a character is encoded as spells a piece with its units. -/
theorem exists_spelled_encodeChar (c : Char) :
    ∃ piece : Piece, piece.Spelled (encodeChar c) ∧ piece.units = utf16 c := by
  by_cases hshort : ∃ escape ∈ shortEscapes, c = escape.1
  · obtain ⟨⟨c, letter⟩, hmem, rfl⟩ := hshort
    obtain ⟨hencode, hescape⟩ := encodeChar_of_mem _ hmem
    rw [hencode]
    exact ⟨.char c, .letter hescape, rfl⟩
  · have hencode := encodeChar_of_notMem fun escape hmem h => hshort ⟨escape, hmem, h⟩
    by_cases hcontrol : c.toNat < 32
    · rw [hencode, if_pos hcontrol]
      refine ⟨.unit c.toNat, .unit (unit?_control _ hcontrol), ?_⟩
      rw [utf16, if_pos (by omega), Piece.units]
    · have hquote : c ≠ '"' := fun h => hshort ⟨_, .head _, h⟩
      have hbackslash : c ≠ '\\' := fun h => hshort ⟨_, .tail _ (.head _), h⟩
      rw [hencode, if_neg hcontrol]
      exact ⟨.char c, .plain (by omega) hquote hbackslash, rfl⟩

/-- What a text is encoded as spells pieces with its units. -/
theorem exists_spelled_flatMap (cs : List Char) :
    ∃ pieces, PiecesSpelled pieces (cs.flatMap encodeChar) ∧
      pieces.flatMap Piece.units = cs.flatMap utf16 := by
  induction cs with
  | nil => exact ⟨[], .nil, rfl⟩
  | cons c cs ih =>
    obtain ⟨pieces, hpieces, hunits⟩ := ih
    obtain ⟨piece, hpiece, hunit⟩ := exists_spelled_encodeChar c
    refine ⟨piece :: pieces, .cons hpiece hpieces, ?_⟩
    rw [List.flatMap_cons, List.flatMap_cons, hunit, hunits]

end SoftKeyboard.Token
