import SoftKeyboard.Layout.Descriptor
import SoftKeyboard.Proofs.Document.Members
import SoftKeyboard.Proofs.Settings.RoundTrip

/-!
# Texts with some of the fields

Settings and layout descriptors are read from texts that have only some of their fields, in any
order and among members of unknown names (`Settings.read_of_some_fields`).  The fields of a text are
picked from one value and the others from the defaults (`Settings.pick`, `Descriptor.pick`); that
the reader does so is a matter of comparing the tables of fields with those of their copies.
-/

namespace SoftKeyboard

open Document (Field Gives copied gives_of_forall₂ toRecord?_of_gives toRecord?_of_repeated
  toRecord?_of_missing toRecord?_record ofItems? optionalField requiredField toText?_string toBool?_bool
  toWord?_word)

namespace Settings

/-- The settings with the fields of the given names from `s` and the others from `base`. -/
def pick (names : List String) (s base : Settings) : Settings where
  theme := if "keyboard_theme" ∈ names then s.theme else base.theme
  subtype := if "subtype" ∈ names then s.subtype else base.subtype
  enabledSubtypes :=
    if "enabled_subtypes" ∈ names then s.enabledSubtypes else base.enabledSubtypes
  systemLanguage := if "system_language" ∈ names then s.systemLanguage else base.systemLanguage
  showVoiceKey := if "show_voice_input_key" ∈ names then s.showVoiceKey else base.showVoiceKey
  showLanguageSwitchKey := if "show_language_switch_key" ∈ names then s.showLanguageSwitchKey
    else base.showLanguageSwitchKey
  splitKeyboard :=
    if "split_keyboard_enabled" ∈ names then s.splitKeyboard else base.splitKeyboard
  hardwareKeyboard :=
    if "has_hardware_keyboard" ∈ names then s.hardwareKeyboard else base.hardwareKeyboard
  heightScale := if "keyboard_height_scale" ∈ names then s.heightScale else base.heightScale
  previewPopup := if "key_preview_popup_on" ∈ names then s.previewPopup else base.previewPopup
  previewDismissMs := if "key_preview_popup_dismiss_delay_ms" ∈ names then s.previewDismissMs
    else base.previewDismissMs
  previewAnimation :=
    if "key_preview_animation" ∈ names then s.previewAnimation else base.previewAnimation
  shortcutReady := if "shortcut_ime_ready" ∈ names then s.shortcutReady else base.shortcutReady
  multipleInputMethods := if "has_multiple_enabled_imes" ∈ names then s.multipleInputMethods
    else base.multipleInputMethods

/-- What copies each field of settings. -/
def copies (s : Settings) : List (String × (Settings → Settings)) :=
  [("keyboard_theme", fun b => { b with theme := s.theme }),
    ("subtype", fun b => { b with subtype := s.subtype }),
    ("enabled_subtypes", fun b => { b with enabledSubtypes := s.enabledSubtypes }),
    ("system_language", fun b => { b with systemLanguage := s.systemLanguage }),
    ("show_voice_input_key", fun b => { b with showVoiceKey := s.showVoiceKey }),
    ("show_language_switch_key",
      fun b => { b with showLanguageSwitchKey := s.showLanguageSwitchKey }),
    ("split_keyboard_enabled", fun b => { b with splitKeyboard := s.splitKeyboard }),
    ("has_hardware_keyboard", fun b => { b with hardwareKeyboard := s.hardwareKeyboard }),
    ("keyboard_height_scale", fun b => { b with heightScale := s.heightScale }),
    ("key_preview_popup_on", fun b => { b with previewPopup := s.previewPopup }),
    ("key_preview_popup_dismiss_delay_ms",
      fun b => { b with previewDismissMs := s.previewDismissMs }),
    ("key_preview_animation", fun b => { b with previewAnimation := s.previewAnimation }),
    ("shortcut_ime_ready", fun b => { b with shortcutReady := s.shortcutReady }),
    ("has_multiple_enabled_imes",
      fun b => { b with multipleInputMethods := s.multipleInputMethods })]

theorem forall₂_copies (s : Settings) :
    List.Forall₂ (fun field copy => field.name = copy.1 ∧ field.Copies s copy.2)
      fields s.copies := by
  unfold fields copies
  repeat' apply List.Forall₂.cons
  all_goals first
    | exact List.Forall₂.nil
    | exact ⟨rfl, Field.copies_of_get _ (fun _ _ => rfl) _ _ s⟩

theorem copied_copies (names : List String) (s base : Settings) :
    copied names s.copies base = s.pick names base := by
  -- In each field only the copy of that field makes a difference.
  simp only [copied, copies, List.foldl_cons, List.foldl_nil, pick]
  rw [mk.injEq]
  simp only [apply_ite theme, apply_ite subtype, apply_ite enabledSubtypes,
    apply_ite systemLanguage, apply_ite showVoiceKey, apply_ite showLanguageSwitchKey,
    apply_ite splitKeyboard, apply_ite hardwareKeyboard, apply_ite heightScale,
    apply_ite previewPopup, apply_ite previewDismissMs, apply_ite previewAnimation,
    apply_ite shortcutReady, apply_ite multipleInputMethods, ite_self, and_self]

theorem gives_of_mem_members {s : Settings} (hfinite : ∀ x ∈ s.singles, x.IsFinite) :
    ∀ member ∈ s.members, Gives fields s member := by
  have h : ∀ x ∈ s.singles, x.ReadsBack := fun x hx => Single.readsBack_iff.2 (hfinite x hx)
  have hscale : (Document.single s.heightScale).toSingle? = some s.heightScale :=
    h _ List.mem_cons_self
  refine gives_of_forall₂ ?_ (by decide)
  unfold fields members
  exact
    .cons ⟨rfl, Field.holds_of_read s.theme.ofDocument?_toDocument rfl⟩ <|
    .cons ⟨rfl, Field.holds_of_read s.subtype.ofDocument?_toDocument rfl⟩ <|
    .cons ⟨rfl, Field.holds_of_read s.toList?_enabledSubtypes rfl⟩ <|
    .cons ⟨rfl, Field.holds_of_read (toText?_string _) rfl⟩ <|
    .cons ⟨rfl, Field.holds_of_read (toBool?_bool _) rfl⟩ <|
    .cons ⟨rfl, Field.holds_of_read (toBool?_bool _) rfl⟩ <|
    .cons ⟨rfl, Field.holds_of_read (toBool?_bool _) rfl⟩ <|
    .cons ⟨rfl, Field.holds_of_read (toBool?_bool _) rfl⟩ <|
    .cons ⟨rfl, Field.holds_of_read hscale rfl⟩ <|
    .cons ⟨rfl, Field.holds_of_read (toBool?_bool _) rfl⟩ <|
    .cons ⟨rfl, Field.holds_of_read (toWord?_word _) rfl⟩ <|
    .cons ⟨rfl, Field.holds_of_read (toNullable?_previewAnimation h) rfl⟩ <|
    .cons ⟨rfl, Field.holds_of_read (toBool?_bool _) rfl⟩ <|
    .cons ⟨rfl, Field.holds_of_read (toBool?_bool _) rfl⟩ .nil

end Settings

/-! ### Descriptors -/

namespace LayerEntry

/-- The document of an entry. -/
def toDocument (e : LayerEntry) : Document :=
  .record [("top_padding", .single e.topPadding), ("icons", e.icons.toDocument)]

theorem ofDocument?_toDocument {e : LayerEntry} (h : e.topPadding.IsFinite) :
    ofDocument? e.toDocument = some e := by
  have hpadding : (Document.single e.topPadding).toSingle? = some e.topPadding :=
    Single.readsBack_iff.2 h
  rw [ofDocument?, toDocument, toRecord?_record rfl (by decide)]
  simp [fields, ofItems?, optionalField, hpadding, IconSet.ofDocument?_toDocument]

end LayerEntry

namespace Descriptor

/-- The single-precision numbers of a descriptor. -/
def singles (d : Descriptor) : List Single :=
  d.layers.entries.map (fun entry => entry.2.topPadding) ++ (d.numeric.map LayerEntry.topPadding).toList

/-- The members that spell a descriptor. -/
def members (d : Descriptor) : List (String × Document) :=
  [("name", .string d.name),
    ("script", d.script.toDocument),
    ("supports_split", .bool d.supportsSplit),
    ("icons", d.icons.toDocument),
    ("variants", .map LayerEntry.toDocument d.layers),
    ("numeric", .nullable LayerEntry.toDocument d.numeric)]

/-- The descriptor with the fields of the given names from `d` and the others from `base`. -/
def pick (names : List String) (d base : Descriptor) : Descriptor where
  name := if "name" ∈ names then d.name else base.name
  script := if "script" ∈ names then d.script else base.script
  supportsSplit := if "supports_split" ∈ names then d.supportsSplit else base.supportsSplit
  icons := if "icons" ∈ names then d.icons else base.icons
  layers := if "variants" ∈ names then d.layers else base.layers
  numeric := if "numeric" ∈ names then d.numeric else base.numeric

/-- What copies each field of a descriptor. -/
def copies (d : Descriptor) : List (String × (Descriptor → Descriptor)) :=
  [("name", fun b => { b with name := d.name }),
    ("script", fun b => { b with script := d.script }),
    ("supports_split", fun b => { b with supportsSplit := d.supportsSplit }),
    ("icons", fun b => { b with icons := d.icons }),
    ("variants", fun b => { b with layers := d.layers }),
    ("numeric", fun b => { b with numeric := d.numeric })]

theorem forall₂_copies (d : Descriptor) :
    List.Forall₂ (fun field copy => field.name = copy.1 ∧ field.Copies d copy.2)
      fields d.copies := by
  unfold fields copies
  repeat' apply List.Forall₂.cons
  all_goals first
    | exact List.Forall₂.nil
    | exact ⟨rfl, Field.copies_of_get _ (fun _ _ => rfl) _ _ d⟩

theorem copied_copies (names : List String) (d base : Descriptor) :
    copied names d.copies base = d.pick names base := by
  simp only [copied, copies, List.foldl_cons, List.foldl_nil, pick]
  rw [mk.injEq]
  simp only [apply_ite name, apply_ite script, apply_ite supportsSplit, apply_ite icons,
    apply_ite layers, apply_ite numeric, ite_self, and_self]

theorem gives_of_mem_members {d : Descriptor} (h : ∀ x ∈ d.singles, x.IsFinite) :
    ∀ member ∈ d.members, Gives fields d member := by
  have hlayers : Document.toMap? LayerEntry.ofDocument? (.map LayerEntry.toDocument d.layers) =
      some d.layers :=
    Document.toMap?_map fun entry hentry =>
      LayerEntry.ofDocument?_toDocument (h _ (by simp [singles]; grind))
  have hnumeric : Document.toNullable? LayerEntry.ofDocument?
      (.nullable LayerEntry.toDocument d.numeric) = some d.numeric := by
    refine Document.toNullable?_nullable (fun e he => ?_) fun _ => nofun
    refine LayerEntry.ofDocument?_toDocument (h _ ?_)
    simp [singles, Option.mem_def.1 he]
  refine gives_of_forall₂ ?_ (by decide)
  unfold fields members
  exact
    .cons ⟨rfl, Field.holds_of_read (toText?_string _) rfl⟩ <|
    .cons ⟨rfl, Field.holds_of_read d.script.ofDocument?_toDocument rfl⟩ <|
    .cons ⟨rfl, Field.holds_of_read (toBool?_bool _) rfl⟩ <|
    .cons ⟨rfl, Field.holds_of_read (IconSet.ofDocument?_toDocument d.icons) rfl⟩ <|
    .cons ⟨rfl, Field.holds_of_read hlayers rfl⟩ <|
    .cons ⟨rfl, Field.holds_of_read hnumeric rfl⟩ .nil

end Descriptor

/-! ### Texts -/

/-- **Settings and descriptors are read from texts with some of their fields.**  In a text that
spells an object with members of the given values, in any order and among members of unknown names,
the fields that are written are read and the others have their defaults; a field that is written
twice refuses the text.  The members that are written for settings with finite numbers are such
members.  A descriptor has to have its name. -/
theorem Settings.read_of_some_fields :
    (∀ (s : Settings) (members : List (String × Document)) (source : String),
      (Document.record members).Spelled source →
      (∀ member ∈ members, Gives fields s member) →
      (∀ field ∈ fields, (members.map Prod.fst).count field.name ≤ 1) →
      ofText? source = some (s.pick (members.map Prod.fst) {})) ∧
    (∀ (members : List (String × Document)) (source : String),
      (Document.record members).Spelled source →
      (∃ field ∈ fields, 1 < (members.map Prod.fst).count field.name) → ofText? source = none) ∧
    (∀ s : Settings, (∀ x ∈ s.singles, x.IsFinite) →
      s.toDocument = .record s.members ∧ ∀ member ∈ s.members, Gives fields s member) ∧
    (∀ (d : Descriptor) (members : List (String × Document)) (source : String),
      (Document.record members).Spelled source →
      (∀ member ∈ members, Gives Descriptor.fields d member) →
      (∀ field ∈ Descriptor.fields, (members.map Prod.fst).count field.name ≤ 1) →
      "name" ∈ members.map Prod.fst →
      Descriptor.ofText? source = some (d.pick (members.map Prod.fst) { name := d.name })) ∧
    (∀ (members : List (String × Document)) (source : String),
      (Document.record members).Spelled source →
      ((∃ field ∈ Descriptor.fields, 1 < (members.map Prod.fst).count field.name) ∨
        "name" ∉ members.map Prod.fst) → Descriptor.ofText? source = none) ∧
    ∀ d : Descriptor, (∀ x ∈ d.singles, x.IsFinite) →
      ∀ member ∈ d.members, Gives Descriptor.fields d member := by
  refine ⟨?_, ?_, fun s hfinite => ⟨rfl, gives_of_mem_members hfinite⟩, ?_, ?_,
    fun _ => Descriptor.gives_of_mem_members⟩
  · intro s members source hspelled hgives honce
    have hoptional : ∀ field ∈ fields, field.required → field.name ∈ members.map Prod.fst := by
      simp [fields, optionalField]
    rw [ofText?, Document.parse?_eq_some_iff.2 hspelled, Option.bind_some, ← copied_copies]
    exact toRecord?_of_gives s.forall₂_copies hgives honce hoptional {}
  · rintro members source hspelled ⟨field, hfield, htwice⟩
    rw [ofText?, Document.parse?_eq_some_iff.2 hspelled, Option.bind_some]
    exact toRecord?_of_repeated hfield htwice {}
  · intro d members source hspelled hgives honce hname
    have hrequired : ∀ field ∈ Descriptor.fields, field.required →
        field.name ∈ members.map Prod.fst := by
      simpa [Descriptor.fields, optionalField, requiredField] using hname
    have hbase : d.pick (members.map Prod.fst) { name := d.name } =
        d.pick (members.map Prod.fst) { name := "" } := by
      simp only [Descriptor.pick, if_pos hname]
    rw [Descriptor.ofText?, Document.parse?_eq_some_iff.2 hspelled, Option.bind_some, hbase,
      ← Descriptor.copied_copies]
    exact toRecord?_of_gives d.forall₂_copies hgives honce hrequired _
  · rintro members source hspelled hrefused
    rw [Descriptor.ofText?, Document.parse?_eq_some_iff.2 hspelled, Option.bind_some]
    rcases hrefused with ⟨field, hfield, htwice⟩ | hname
    · exact toRecord?_of_repeated hfield htwice _
    · have hfield : requiredField "name" Document.toText?
          (fun x (d : Descriptor) => { d with name := x }) ∈ Descriptor.fields := .head _
      exact toRecord?_of_missing hfield rfl hname _

/-- A text of settings: blanks, an escape in a name, an exponent, and a member of an unknown name
around the others, once with a nested value and once with half a surrogate pair. -/
def Settings.scattered : String :=
  "\x7b\"x\": [\x7b\"y\": [null]\x7d, 1] , \"keyboard_height_scale\":15E-1,\n" ++
    "\"\\u0073ubtype\":\x7b\"locale\":\"fr_FR\",\"keyboard_layout\":\"azerty\"\x7d, \"x\":\"\\ud800\"\x7d"

/-- The members of `Settings.scattered`. -/
def Settings.scatteredMembers : List (String × Document) :=
  [("x", .array [.record [("y", .array [.null])], .number ⟨false, [1], [], none⟩]),
    ("keyboard_height_scale", .number ⟨false, [1, 5], [], some (true, [1])⟩),
    ("subtype", .record [("locale", .string "fr_FR"), ("keyboard_layout", .string "azerty")]),
    ("x", .text none)]

/-- A descriptor with an entry for numeric modes. -/
def Descriptor.padded : Descriptor :=
  { name := "qwerty", supportsSplit := true, numeric := some { topPadding := .ofDecimal 15 1 } }

/-- A text of that descriptor without most of its fields. -/
def Descriptor.paddedText : String :=
  "\x7b\"numeric\":\x7b\"top_padding\":1.5,\"icons\":\x7b\x7d\x7d,\"name\":\"qwerty\"\x7d"

/-- The members of `Descriptor.paddedText`. -/
def Descriptor.paddedMembers : List (String × Document) :=
  [("numeric", .nullable LayerEntry.toDocument padded.numeric), ("name", .string "qwerty")]

/-- A text of a descriptor that writes its icons twice. -/
def Descriptor.iconsTwice : String :=
  "\x7b\"name\":\"qwerty\",\"icons\":\x7b\x7d,\"icons\":\x7b\x7d\x7d"

/-- The members of `Descriptor.iconsTwice`. -/
def Descriptor.iconsTwiceMembers : List (String × Document) :=
  [("name", .string "qwerty"), ("icons", .record []), ("icons", .record [])]

theorem Settings.scattered_read :
    (Document.record scatteredMembers).Spelled scattered ∧
    ofText? scattered = some { subtype := ⟨"fr_FR", "azerty"⟩, heightScale := .ofDecimal 15 1 } ∧
    (∀ x ∈ Descriptor.padded.singles, x.IsFinite) ∧
    Descriptor.ofText? Descriptor.paddedText =
      some { name := "qwerty", numeric := Descriptor.padded.numeric } ∧
    Descriptor.ofText? Descriptor.iconsTwice = none := by
  have hspelled : (Document.record scatteredMembers).Spelled scattered :=
    Token.spelled_of_scan? (by decide +kernel)
  have hread := read_of_some_fields.1
    { subtype := ⟨"fr_FR", "azerty"⟩, heightScale := .ofDecimal 15 1, systemLanguage := "fr" }
    scatteredMembers scattered hspelled (by decide +kernel) (by decide +kernel)
  have hfinite : ∀ x ∈ Descriptor.padded.singles, x.IsFinite := by decide +kernel
  have hpadded : (Document.record Descriptor.paddedMembers).Spelled Descriptor.paddedText :=
    Token.spelled_of_scan? (by decide +kernel)
  have hgives : ∀ member ∈ Descriptor.paddedMembers,
      Gives Descriptor.fields Descriptor.padded member := by
    have hmembers : Descriptor.paddedMembers ⊆ Descriptor.padded.members := by
      rintro member (_ | ⟨_, _ | ⟨_, hnone⟩⟩)
      · exact List.mem_of_getElem? (i := 5) rfl
      · exact List.mem_of_getElem? (i := 0) rfl
      · cases hnone
    exact fun member hmember =>
      read_of_some_fields.2.2.2.2.2 Descriptor.padded hfinite member (hmembers hmember)
  have hreadPadded := read_of_some_fields.2.2.2.1 Descriptor.padded Descriptor.paddedMembers
    Descriptor.paddedText hpadded hgives (by decide +kernel) (by decide +kernel)
  have htwice : (Document.record Descriptor.iconsTwiceMembers).Spelled Descriptor.iconsTwice :=
    Token.spelled_of_scan? (by decide +kernel)
  refine ⟨hspelled, hread, hfinite, hreadPadded, ?_⟩
  exact read_of_some_fields.2.2.2.2.1 _ _ htwice (.inl (by decide +kernel))

end SoftKeyboard
