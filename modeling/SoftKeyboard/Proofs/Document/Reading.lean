import SoftKeyboard.Document.Basic
import SoftKeyboard.Proofs.Document.Scanning

/-!
# Reading documents

A text spells a document when it spells the tokens of the document (`Document.Spelled`), and the
texts from which a document is read are those that spell it (`Document.parse?_eq_some_iff`).  The
reader takes the tokens of a value, wherever it stands, to the state in which the value is complete
(`Reader.run?_tokens`); and in every state the tokens it has taken are those of what it holds
(`Reader.taken_of_run?`).  A rendered document is one spelling of it (`Document.parse?_render`).
-/

namespace SoftKeyboard.Document

theorem itemTokens_cons_cons (item next : Document) (items : List Document) :
    itemTokens (item :: next :: items) = item.tokens ++ .comma :: itemTokens (next :: items) := rfl

theorem memberTokens_cons_cons (k : Option String) (d : Document)
    (next : Option String × Document) (members : List (Option String × Document)) :
    memberTokens ((k, d) :: next :: members) =
      .text k :: .colon :: (d.tokens ++ .comma :: memberTokens (next :: members)) := rfl

/-! ### Scanning -/

theorem isChain_cons {t : Token} {after : List Token} (ht : t.isNumber = false)
    (hafter : after.IsChain Token.Adjacent) : (t :: after).IsChain Token.Adjacent :=
  List.isChain_cons.2 ⟨fun _ _ h => absurd h (by simp [ht]), hafter⟩

/-- Tokens that are no numerals keep apart what stands before and behind them. -/
theorem isChain_append_cons {before after : List Token} {t : Token}
    (hbefore : before.IsChain Token.Adjacent) (ht : t.isNumber = false)
    (hafter : after.IsChain Token.Adjacent) :
    (before ++ t :: after).IsChain Token.Adjacent := by
  refine List.isChain_append.2 ⟨hbefore, isChain_cons ht hafter, ?_⟩
  rintro u _ _ ⟨⟩ _
  exact ht

mutual

/-- No two numerals stand side by side in the tokens of a document. -/
theorem isChain_tokens : (d : Document) → d.tokens.IsChain Token.Adjacent
  | .null | .bool _ | .number _ | .text _ => .singleton _
  | .array items => isChain_cons rfl (isChain_append_cons (isChain_itemTokens items) rfl .nil)
  | .object members =>
    isChain_cons rfl (isChain_append_cons (isChain_memberTokens members) rfl .nil)

theorem isChain_itemTokens :
    (items : List Document) → (itemTokens items).IsChain Token.Adjacent
  | [] => .nil
  | [item] => isChain_tokens item
  | item :: next :: items =>
    isChain_append_cons (isChain_tokens item) rfl (isChain_itemTokens (next :: items))

theorem isChain_memberTokens :
    (members : List (Option String × Document)) → (memberTokens members).IsChain Token.Adjacent
  | [] => .nil
  | [(_, value)] => isChain_cons rfl (isChain_cons rfl (isChain_tokens value))
  | (_, value) :: next :: members =>
    isChain_cons rfl (isChain_cons rfl
      (isChain_append_cons (isChain_tokens value) rfl (isChain_memberTokens (next :: members))))

end

/-! ### Reading -/

namespace Reader

/-- Where an array was opened, its first item is read like any other. -/
theorem run?_firstItem (item : Document) (items : List Document) (frames : List Frame)
    (rest : List Token) :
    (firstItem frames).run? (itemTokens (item :: items) ++ rest) =
      (value (.array [] :: frames)).run? (itemTokens (item :: items) ++ rest) := by
  cases items <;> cases item <;> rfl

/-- Where an object was opened, its first key is read like any other. -/
theorem run?_firstKey (member : Option String × Document)
    (members : List (Option String × Document)) (frames : List Frame) (rest : List Token) :
    (firstKey frames).run? (memberTokens (member :: members) ++ rest) =
      (key [] frames).run? (memberTokens (member :: members) ++ rest) := by
  cases members <;> rfl

mutual

/-- The tokens of a value take the reader to the state in which the value is complete. -/
theorem run?_tokens : (d : Document) → (frames : List Frame) → (rest : List Token) →
    (value frames).run? (d.tokens ++ rest) = (complete d frames).run? rest
  | .null, _, _ | .bool _, _, _ | .number _, _, _ | .text _, _, _ => rfl
  | .array [], _, _ | .object [], _, _ => rfl
  | .array (item :: items), frames, rest => by
    have hitems := run?_itemTokens (item :: items) (by simp) [] frames rest
    rw [← run?_firstItem] at hitems
    simpa [tokens, run?, step?, start?] using hitems
  | .object (member :: members), frames, rest => by
    have hmembers := run?_memberTokens (member :: members) (by simp) [] frames rest
    rw [← run?_firstKey] at hmembers
    simpa [tokens, run?, step?, start?] using hmembers

/-- The tokens of the items of an array, and its end, take the reader to the state in which the
array is complete. -/
theorem run?_itemTokens : (items : List Document) → items ≠ [] → (before : List Document) →
    (frames : List Frame) → (rest : List Token) →
    (value (.array before :: frames)).run? (itemTokens items ++ .rightBracket :: rest) =
      (complete (.array (before.reverse ++ items)) frames).run? rest
  | [item], _, before, frames, rest => by
    rw [itemTokens, run?_tokens item]
    simp [complete, run?, step?]
  | item :: next :: items, _, before, frames, rest => by
    have hitems := run?_itemTokens (next :: items) (by simp) (item :: before) frames rest
    rw [itemTokens_cons_cons, List.append_assoc, run?_tokens item]
    simp [complete, run?, step?, hitems]

/-- The tokens of the members of an object, and its end, take the reader to the state in which the
object is complete. -/
theorem run?_memberTokens : (members : List (Option String × Document)) → members ≠ [] →
    (before : List (Option String × Document)) → (frames : List Frame) → (rest : List Token) →
    (key before frames).run? (memberTokens members ++ .rightBrace :: rest) =
      (complete (.object (before.reverse ++ members)) frames).run? rest
  | [(k, d)], _, before, frames, rest => by
    have hvalue := run?_tokens d (.object before k :: frames) (.rightBrace :: rest)
    simp [memberTokens, complete, run?, step?, hvalue]
  | (k, d) :: next :: members, _, before, frames, rest => by
    have hmembers := run?_memberTokens (next :: members) (by simp) ((k, d) :: before) frames rest
    have hvalue := run?_tokens d (.object before k :: frames)
      (.comma :: (memberTokens (next :: members) ++ .rightBrace :: rest))
    simp [memberTokens_cons_cons, complete, run?, step?, hvalue, hmembers]

end

end Reader

/-- The tokens of a document spell it. -/
theorem ofTokens?_tokens (d : Document) : ofTokens? d.tokens = some d := by
  have hrun := Reader.run?_tokens d [] []
  rw [List.append_nil] at hrun
  rw [ofTokens?, hrun]
  rfl

/-! ### What was read -/

/-- The tokens of an item and the comma behind it. -/
def itemComma (d : Document) : List Token := d.tokens ++ [.comma]

/-- The tokens of a member and the comma behind it. -/
def memberComma (member : Option String × Document) : List Token :=
  .text member.1 :: .colon :: (member.2.tokens ++ [.comma])

theorem itemTokens_concat (items : List Document) (d : Document) :
    itemTokens (items ++ [d]) = items.flatMap itemComma ++ d.tokens := by
  induction items with
  | nil => rfl
  | cons item items ih =>
    obtain ⟨next, rest, hcons⟩ := List.exists_cons_of_ne_nil
      (List.append_ne_nil_of_right_ne_nil items (List.cons_ne_nil d []))
    rw [List.cons_append, hcons, itemTokens_cons_cons, ← hcons, ih]
    simp [itemComma]

theorem memberTokens_concat (members : List (Option String × Document)) (k : Option String)
    (d : Document) :
    memberTokens (members ++ [(k, d)]) =
      members.flatMap memberComma ++ .text k :: .colon :: d.tokens := by
  induction members with
  | nil => rfl
  | cons member members ih =>
    obtain ⟨next, rest, hcons⟩ := List.exists_cons_of_ne_nil
      (List.append_ne_nil_of_right_ne_nil members (List.cons_ne_nil (k, d) []))
    rw [List.cons_append, hcons, memberTokens_cons_cons, ← hcons, ih]
    simp [memberComma]

/-- The tokens of an unfinished array or object, up to where its next value has to come. -/
def Frame.opening : Frame → List Token
  | .array items => .leftBracket :: items.reverse.flatMap itemComma
  | .object members key => .leftBrace :: (members.reverse.flatMap memberComma ++ [.text key, .colon])

/-- The tokens of the unfinished arrays and objects around a value. -/
def opening (frames : List Frame) : List Token := frames.reverse.flatMap Frame.opening

theorem opening_cons (frame : Frame) (frames : List Frame) :
    opening (frame :: frames) = opening frames ++ frame.opening := by
  simp [opening]

namespace Reader

/-- The tokens that a reader has taken. -/
def taken : Reader → List Token
  | .value frames => opening frames
  | .firstItem frames => opening frames ++ [.leftBracket]
  | .afterItem items frames => opening frames ++ .leftBracket :: itemTokens items.reverse
  | .firstKey frames => opening frames ++ [.leftBrace]
  | .key members frames => opening frames ++ .leftBrace :: members.reverse.flatMap memberComma
  | .colon members k frames =>
    opening frames ++ .leftBrace :: (members.reverse.flatMap memberComma ++ [.text k])
  | .afterMember members frames => opening frames ++ .leftBrace :: memberTokens members.reverse
  | .done document => document.tokens

/-- Behind an item or a member there is one. -/
def Proper : Reader → Prop
  | .afterItem items _ => items ≠ []
  | .afterMember members _ => members ≠ []
  | _ => True

theorem taken_complete (d : Document) (frames : List Frame) :
    (complete d frames).taken = opening frames ++ d.tokens ∧ (complete d frames).Proper := by
  match frames with
  | [] => exact ⟨rfl, trivial⟩
  | .array items :: frames =>
    refine ⟨?_, List.cons_ne_nil d items⟩
    simp [complete, taken, opening_cons, Frame.opening, itemTokens_concat]
  | .object members k :: frames =>
    refine ⟨?_, List.cons_ne_nil (k, d) members⟩
    simp [complete, taken, opening_cons, Frame.opening, memberTokens_concat]

/-- The first token of a value is taken behind what was before it. -/
theorem taken_of_start? {frames : List Frame} {t : Token} {r : Reader}
    (h : start? frames t = some r) : r.taken = opening frames ++ [t] ∧ r.Proper := by
  unfold start? at h
  split at h
  case h_7 => cases h
  case h_5 | h_6 =>
    obtain rfl := Option.some.inj h
    exact ⟨rfl, trivial⟩
  all_goals
    obtain rfl := Option.some.inj h
    exact taken_complete _ frames

/-- **A token is taken behind those before it.** -/
theorem taken_of_step? {r r' : Reader} {t : Token} (hr : r.Proper) (h : r.step? t = some r') :
    r'.taken = r.taken ++ [t] ∧ r'.Proper := by
  unfold step? at h
  split at h
  case h_1 frames _ => exact taken_of_start? h
  case h_2 frames =>
    obtain rfl := Option.some.inj h
    obtain ⟨htaken, hproper⟩ := taken_complete (.array []) frames
    rw [htaken]
    exact ⟨by simp [taken, tokens, itemTokens], hproper⟩
  case h_3 t frames _ =>
    obtain ⟨htaken, hproper⟩ := taken_of_start? h
    rw [htaken]
    exact ⟨by simp [taken, opening_cons, Frame.opening], hproper⟩
  case h_4 items frames =>
    obtain rfl := Option.some.inj h
    obtain ⟨d, items, rfl⟩ := List.exists_cons_of_ne_nil hr
    refine ⟨?_, trivial⟩
    simp [taken, opening_cons, Frame.opening, itemTokens_concat, itemComma]
  case h_5 items frames =>
    obtain rfl := Option.some.inj h
    obtain ⟨htaken, hproper⟩ := taken_complete (.array items.reverse) frames
    rw [htaken]
    exact ⟨by simp [taken, tokens], hproper⟩
  case h_6 frames =>
    obtain rfl := Option.some.inj h
    obtain ⟨htaken, hproper⟩ := taken_complete (.object []) frames
    rw [htaken]
    exact ⟨by simp [taken, tokens, memberTokens], hproper⟩
  case h_7 frames k =>
    obtain rfl := Option.some.inj h
    exact ⟨by simp [taken], trivial⟩
  case h_8 members frames k =>
    obtain rfl := Option.some.inj h
    exact ⟨by simp [taken], trivial⟩
  case h_9 members k frames =>
    obtain rfl := Option.some.inj h
    exact ⟨by simp [taken, opening_cons, Frame.opening], trivial⟩
  case h_10 members frames =>
    obtain rfl := Option.some.inj h
    obtain ⟨⟨k, d⟩, members, rfl⟩ := List.exists_cons_of_ne_nil hr
    refine ⟨?_, trivial⟩
    simp [taken, memberTokens_concat, memberComma]
  case h_11 members frames =>
    obtain rfl := Option.some.inj h
    obtain ⟨htaken, hproper⟩ := taken_complete (.object members.reverse) frames
    rw [htaken]
    exact ⟨by simp [taken, tokens], hproper⟩
  case h_12 => cases h

/-- **The tokens of a run are those the reader has taken at its end.** -/
theorem taken_of_run? {r r' : Reader} {tokens : List Token} (hr : r.Proper)
    (h : r.run? tokens = some r') : r'.taken = r.taken ++ tokens := by
  induction tokens generalizing r with
  | nil =>
    obtain rfl := Option.some.inj h
    rw [List.append_nil]
  | cons t tokens ih =>
    obtain ⟨next, hstep, hrun⟩ := Option.bind_eq_some_iff.1 h
    obtain ⟨htaken, hnext⟩ := taken_of_step? hr hstep
    rw [ih hnext hrun, htaken, List.append_assoc, List.singleton_append]

end Reader

/-- Only the tokens of a document spell it. -/
theorem eq_tokens_of_ofTokens? {tokens : List Token} {d : Document}
    (h : ofTokens? tokens = some d) : tokens = d.tokens := by
  unfold ofTokens? at h
  split at h
  · next hrun =>
    obtain rfl := Option.some.inj h
    have hstart : (Reader.value []).Proper := trivial
    exact (Reader.taken_of_run? hstart hrun).symm
  · cases h

/-! ### Texts of a document -/

/-- Whether a text spells a document: its tokens, each in any of its spellings, with any blanks
around them. -/
def Spelled (d : Document) (source : String) : Prop := Token.Spelled d.tokens source.toList

/-- **A document is read from the texts that spell it, and from no other.** -/
theorem parse?_eq_some_iff {source : String} {d : Document} :
    parse? source = some d ↔ d.Spelled source := by
  constructor
  · intro h
    obtain ⟨tokens, hscan, htokens⟩ := Option.bind_eq_some_iff.1 h
    have hspelled := Token.spelled_of_scan? hscan
    rwa [eq_tokens_of_ofTokens? htokens] at hspelled
  · intro h
    rw [parse?, Token.scan?_of_spelled h (isChain_tokens d), Option.bind_some, ofTokens?_tokens]

/-! ### Documents that a text can hold -/

/-- Whether a text can hold the document as it is: its numerals are well formed, and its texts and
keys are texts. -/
def WellFormed (d : Document) : Prop := ∀ t ∈ d.tokens, t.WellFormed

/-- **A document is read from its text as it was.** -/
theorem parse?_render {d : Document} (h : d.WellFormed) : parse? d.render = some d := by
  rw [parse?_eq_some_iff, Spelled, render, String.toList_ofList]
  exact Token.spelled_flatMap_render h

@[simp]
theorem wellFormed_null : null.WellFormed := by simp [WellFormed, tokens, Token.WellFormed]

@[simp]
theorem wellFormed_bool (value : Bool) : (bool value).WellFormed := by
  simp [WellFormed, tokens, Token.WellFormed]

@[simp]
theorem wellFormed_string (value : String) : (string value).WellFormed := by
  simp [WellFormed, string, tokens, Token.WellFormed]

theorem wellFormed_number {numeral : Numeral} (h : numeral.WellFormed) :
    (number numeral).WellFormed := by
  simpa [WellFormed, tokens, Token.WellFormed] using h

theorem wellFormed_itemTokens {items : List Document} (h : ∀ item ∈ items, item.WellFormed) :
    ∀ t ∈ itemTokens items, t.WellFormed := by
  induction items with
  | nil => simp [itemTokens]
  | cons item items ih =>
    have hitem := h item List.mem_cons_self
    have hitems := ih fun item hmem => h item (List.mem_cons_of_mem _ hmem)
    cases items with
    | nil => exact hitem
    | cons next items =>
      intro t ht
      rw [itemTokens_cons_cons, List.mem_append, List.mem_cons] at ht
      rcases ht with ht | rfl | ht
      · exact hitem t ht
      · trivial
      · exact hitems t ht

theorem wellFormed_memberTokens {members : List (Option String × Document)}
    (h : ∀ member ∈ members, member.1.isSome ∧ member.2.WellFormed) :
    ∀ t ∈ memberTokens members, t.WellFormed := by
  induction members with
  | nil => simp [memberTokens]
  | cons member members ih =>
    obtain ⟨_ | k, d⟩ := member
    · exact absurd (h _ List.mem_cons_self).1 (by simp)
    have hd : d.WellFormed := (h _ List.mem_cons_self).2
    have hmembers := ih fun member hmem => h member (List.mem_cons_of_mem _ hmem)
    intro t ht
    cases members with
    | nil =>
      simp only [memberTokens, List.mem_cons] at ht
      rcases ht with rfl | rfl | ht
      · trivial
      · trivial
      · exact hd t ht
    | cons next members =>
      simp only [memberTokens_cons_cons, List.mem_cons, List.mem_append] at ht
      rcases ht with rfl | rfl | ht | rfl | ht
      · trivial
      · trivial
      · exact hd t ht
      · trivial
      · exact hmembers t ht

/-- An array is well formed if its items are. -/
theorem wellFormed_array {items : List Document} (h : ∀ item ∈ items, item.WellFormed) :
    (array items).WellFormed := by
  intro t ht
  simp only [tokens, List.mem_cons, List.mem_append, List.not_mem_nil, or_false] at ht
  rcases ht with rfl | ht | rfl
  · trivial
  · exact wellFormed_itemTokens h t ht
  · trivial

/-- An object is well formed if its keys are texts and its values are well formed. -/
theorem wellFormed_record {members : List (String × Document)}
    (h : ∀ member ∈ members, member.2.WellFormed) : (record members).WellFormed := by
  intro t ht
  simp only [record, tokens, List.mem_cons, List.mem_append, List.not_mem_nil, or_false] at ht
  rcases ht with rfl | ht | rfl
  · trivial
  · refine wellFormed_memberTokens (fun member hmember => ?_) t ht
    obtain ⟨⟨k, d⟩, hkd, rfl⟩ := List.mem_map.1 hmember
    exact ⟨rfl, h _ hkd⟩
  · trivial

end SoftKeyboard.Document
