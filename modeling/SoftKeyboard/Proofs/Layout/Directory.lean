import Mathlib.Data.List.Nodup
import Mathlib.Data.List.TakeWhile
import Mathlib.Tactic.SplitIfs
import SoftKeyboard.Layout.Directory
import SoftKeyboard.Proofs.SortedMap
import SoftKeyboard.Proofs.Text.ByteOrder

/-!
# What a directory holds of layouts

A file describes a layout if its name is the layout's name with `.json` behind it
(`layoutNameOf?_eq_some_iff`).  The catalog of a directory can be gathered if each of these files
can be read, and it answers for each layout from the layout's own file alone
(`Catalog.ofDirectory_independent`): other files, and the order in which a directory lists its
entries, make no difference.

The order drops out because the names of files and of layouts determine each other: no two entries
put a descriptor into the same place of the catalog (`Catalog.get?_foldlM_insertEntry`).
-/

namespace SoftKeyboard

/-! ### File names -/

/-- A name is split at its last dot, unless that is its first character. -/
theorem splitExtension_eq_some_iff {name stem extension : String} :
    splitExtension name = some (stem, extension) ↔
      stem ≠ "" ∧ name = stem ++ "." ++ extension ∧ '.' ∉ extension.toList := by
  unfold splitExtension
  dsimp only
  constructor
  · intro h
    have hsplit := List.takeWhile_append_dropWhile (p := (· ≠ '.')) (l := name.toList.reverse)
    have hplain : '.' ∉ name.toList.reverse.takeWhile (· ≠ '.') := fun hmem => by
      simpa using List.mem_takeWhile_imp hmem
    have hdot := List.head?_dropWhile_not (· ≠ '.') name.toList.reverse
    split at h
    · cases h
    · cases h
    · next c rest hrest hdrop =>
      rw [hdrop] at hsplit hdot
      obtain rfl : c = '.' := by simpa using hdot
      obtain ⟨rfl, rfl⟩ := Prod.mk.inj (Option.some.inj h)
      refine ⟨?_, ?_, ?_⟩
      · simpa [← String.toList_inj] using hrest
      · rw [← String.toList_inj, ← List.reverse_inj]
        exact hsplit.symm.trans (by simp)
      · simpa using hplain
  · rintro ⟨hstem, rfl, hdot⟩
    have hreverse : (stem ++ "." ++ extension).toList.reverse =
        extension.toList.reverse ++ '.' :: stem.toList.reverse := by simp
    have hbehind : ∀ c ∈ extension.toList.reverse, decide (c ≠ '.') = true := fun c hc => by
      simpa using fun h : c = '.' => hdot (h ▸ List.mem_reverse.1 hc)
    have hfront : stem.toList.reverse ≠ [] := by simpa using hstem
    rw [hreverse, List.dropWhile_append_of_pos hbehind, List.takeWhile_append_of_pos hbehind]
    split
    · next h => cases h
    · next h => exact absurd (List.cons.inj h).2 hfront
    · next h =>
      obtain rfl := (List.cons.inj h).2
      simp

/-- The file of a layout has the layout's name with `.json` behind it. -/
theorem layoutNameOf?_eq_some_iff {fileName layout : String} :
    layoutNameOf? fileName = some layout ↔ layout ≠ "" ∧ fileName = layout ++ ".json" := by
  have hname : layout ++ "." ++ "json" = layout ++ ".json" := String.append_assoc ..
  have hiff : splitExtension fileName = some (layout, "json") ↔ _ := splitExtension_eq_some_iff
  rw [hname] at hiff
  have hplain : '.' ∉ "json".toList := by decide
  rw [layoutNameOf?]
  split
  · next stem hsplit =>
    rw [hsplit] at hiff
    simpa [hplain] using hiff
  · next hsplit =>
    have hne : splitExtension fileName ≠ some (layout, "json") := fun h => hsplit layout h
    simpa [hne, hplain] using hiff

/-! ### Entries -/

namespace DirectoryEntry

/-- Whether the entry is a file with the bytes of a text. -/
def Holds (entry : DirectoryEntry) (text : String) : Prop := entry = .file text.toUTF8

theorem read_eq_ok_iff {entry : DirectoryEntry} {text : String} :
    entry.read = .ok text ↔ entry.Holds text := by
  cases entry with
  | directory entries => exact ⟨nofun, nofun⟩
  | file content =>
    simp only [read, Holds, file.injEq]
    by_cases hvalid : content.IsValidUTF8
    · have hread : String.fromUTF8? content = some (.fromUTF8 content hvalid) := dif_pos hvalid
      rw [hread, Except.ok.injEq, ← String.toByteArray_inj, String.toUTF8_eq_toByteArray]
      rfl
    · have hread : String.fromUTF8? content = none := dif_neg hvalid
      rw [hread]
      refine ⟨nofun, ?_⟩
      rintro rfl
      exact absurd text.isValidUTF8 hvalid

theorem Holds.iff_eq {entry : DirectoryEntry} {text other : String} (h : entry.Holds text) :
    entry.Holds other ↔ text = other := by
  rw [← read_eq_ok_iff] at h ⊢
  rw [h, Except.ok.injEq]

end DirectoryEntry

namespace Catalog

/-! ### Gathering -/

variable {path : String}

/-- An entry of a directory is passed over if it describes no layout; otherwise it is a file with a
text, which becomes the descriptor of its layout. -/
theorem insertEntry_eq_ok_iff {c c' : Catalog} {entry : String × DirectoryEntry} :
    insertEntry path c entry = .ok c' ↔
      layoutNameOf? entry.1 = none ∧ c' = c ∨
        ∃ layout text, layoutNameOf? entry.1 = some layout ∧ entry.2.Holds text ∧
          c' = c.insert layout text := by
  unfold insertEntry
  cases hname : layoutNameOf? entry.1 with
  | none => simp [eq_comm]
  | some layout =>
    dsimp only
    cases hread : entry.2.read with
    | error cause => simp [← DirectoryEntry.read_eq_ok_iff, hread]
    | ok text => simp [← DirectoryEntry.read_eq_ok_iff, hread, eq_comm]

theorem exists_insertEntry_iff {c : Catalog} {entry : String × DirectoryEntry} :
    (∃ c', insertEntry path c entry = .ok c') ↔
      ∀ layout, layoutNameOf? entry.1 = some layout → ∃ text, entry.2.Holds text := by
  constructor
  · rintro ⟨c', h⟩ layout hname
    rcases insertEntry_eq_ok_iff.1 h with ⟨hnone, -⟩ | ⟨_, text, -, hholds, -⟩
    · rw [hnone] at hname
      cases hname
    · exact ⟨text, hholds⟩
  · intro h
    cases hname : layoutNameOf? entry.1 with
    | none => exact ⟨c, insertEntry_eq_ok_iff.2 (.inl ⟨hname, rfl⟩)⟩
    | some layout =>
      obtain ⟨text, hholds⟩ := h layout hname
      exact ⟨_, insertEntry_eq_ok_iff.2 (.inr ⟨layout, text, hname, hholds, rfl⟩)⟩

/-- Whatever has been gathered before, the rest of a directory is gathered if each of its files that
describes a layout can be read. -/
theorem exists_foldlM_insertEntry_iff (c : Catalog) (entries : List (String × DirectoryEntry)) :
    (∃ c', entries.foldlM (insertEntry path) c = .ok c') ↔
      ∀ entry ∈ entries, ∀ layout, layoutNameOf? entry.1 = some layout →
        ∃ text, entry.2.Holds text := by
  induction entries generalizing c with
  | nil => exact ⟨fun _ => nofun, fun _ => ⟨c, rfl⟩⟩
  | cons entry entries ih =>
    rw [List.forall_mem_cons, ← @exists_insertEntry_iff path c, List.foldlM_cons]
    cases hentry : insertEntry path c entry with
    | ok next =>
      show (∃ c', entries.foldlM (insertEntry path) next = .ok c') ↔ _
      rw [ih next]
      exact ⟨fun h => ⟨⟨next, rfl⟩, h⟩, And.right⟩
    | error e => exact ⟨nofun, nofun⟩

/-- Among entries with different names, at most one describes a layout. -/
theorem eq_of_layoutNameOf?_eq {entries : List (String × DirectoryEntry)}
    (hnodup : (entries.map Prod.fst).Nodup) {entry other : String × DirectoryEntry}
    (hentry : entry ∈ entries) (hother : other ∈ entries) {layout : String}
    (h : layoutNameOf? entry.1 = some layout) (h' : layoutNameOf? other.1 = some layout) :
    entry = other := by
  have hname : entry.1 = other.1 :=
    (layoutNameOf?_eq_some_iff.1 h).2.trans (layoutNameOf?_eq_some_iff.1 h').2.symm
  exact List.inj_on_of_nodup_map hnodup hentry hother hname

/-- Each file that describes a layout decides what the gathered catalog has for the layout; where
there is none, the catalog has what it had before. -/
theorem get?_foldlM_insertEntry {c c' : Catalog} {entries : List (String × DirectoryEntry)}
    (hnodup : (entries.map Prod.fst).Nodup)
    (h : entries.foldlM (insertEntry path) c = .ok c') {layout text : String} :
    c'.sources.get? layout = some text ↔
      (∃ entry ∈ entries, layoutNameOf? entry.1 = some layout ∧ entry.2.Holds text) ∨
        (∀ entry ∈ entries, layoutNameOf? entry.1 ≠ some layout) ∧
          c.sources.get? layout = some text := by
  induction entries generalizing c with
  | nil =>
    obtain rfl := Except.ok.inj h
    simp
  | cons entry entries ih =>
    obtain ⟨hentry, hentries⟩ := List.nodup_cons.1 hnodup
    rw [List.foldlM_cons] at h
    cases hnext : insertEntry path c entry with
    | error e =>
      rw [hnext] at h
      cases h
    | ok next =>
      rw [hnext] at h
      have hrest := ih hentries h
      rw [hrest, List.exists_mem_cons_iff, List.forall_mem_cons]
      rcases insertEntry_eq_ok_iff.1 hnext with ⟨hnone, rfl⟩ | ⟨own, written, hown, hholds, rfl⟩
      · simp [hnone]
      · by_cases hlayout : layout = own
        · subst hlayout
          -- no other entry describes the layout
          have hothers : ∀ other ∈ entries, layoutNameOf? other.1 ≠ some layout := by
            intro other hother hname
            have heq := eq_of_layoutNameOf?_eq hnodup List.mem_cons_self
              (List.mem_cons_of_mem _ hother) hown hname
            exact hentry (heq ▸ List.mem_map_of_mem hother)
          have hnone : ¬ ∃ other ∈ entries,
              layoutNameOf? other.1 = some layout ∧ other.2.Holds text :=
            fun ⟨other, hother, hname, _⟩ => hothers other hother hname
          rw [eq_false hnone, eq_true hothers]
          simp [hown, insert, hholds.iff_eq]
        · have hne : ¬ own = layout := fun h => hlayout h.symm
          simp [hown, hne, hlayout, insert]

/-! ### Directories -/

/-- The content of a directory has a file of a layout: the entry whose name is the layout's, with
`.json` behind it. -/
def FileOf (content : SortedMap DirectoryEntry) (layout : String) (file : DirectoryEntry) : Prop :=
  layout ≠ "" ∧ content.get? (layout ++ ".json") = some file

theorem fileOf_iff {content : SortedMap DirectoryEntry} {listed : List (String × DirectoryEntry)}
    (hlisted : listed.Perm content.entries) {layout : String} {file : DirectoryEntry} :
    FileOf content layout file ↔
      ∃ entry ∈ listed, layoutNameOf? entry.1 = some layout ∧ entry.2 = file := by
  unfold FileOf
  rw [SortedMap.get?_eq_some_iff, ← hlisted.mem_iff]
  constructor
  · rintro ⟨hlayout, hmem⟩
    exact ⟨_, hmem, layoutNameOf?_eq_some_iff.2 ⟨hlayout, rfl⟩, rfl⟩
  · rintro ⟨⟨fileName, _⟩, hmem, hname, rfl⟩
    obtain ⟨hlayout, rfl⟩ := layoutNameOf?_eq_some_iff.1 hname
    exact ⟨hlayout, hmem⟩

variable {content : SortedMap DirectoryEntry} {listed : List (String × DirectoryEntry)}

/-- A gathered catalog has the texts of the files of layouts, and nothing else. -/
theorem get?_ofEntries_iff (hlisted : listed.Perm content.entries) {c : Catalog}
    (h : ofEntries path listed = .ok c) (layout text : String) :
    c.sources.get? layout = some text ↔ ∃ file, FileOf content layout file ∧ file.Holds text := by
  have hnodup : (listed.map Prod.fst).Nodup :=
    ((hlisted.map Prod.fst).nodup_iff).2 content.nodup_keys
  rw [get?_foldlM_insertEntry hnodup h]
  simp only [fileOf_iff hlisted]
  constructor
  · rintro (⟨entry, hmem, hname, hholds⟩ | ⟨-, hempty⟩)
    · exact ⟨_, ⟨entry, hmem, hname, rfl⟩, hholds⟩
    · cases hempty
  · rintro ⟨_, ⟨entry, hmem, hname, rfl⟩, hholds⟩
    exact .inl ⟨entry, hmem, hname, hholds⟩

/-- A layout is built from its own descriptor, which can be broken, or incomplete for the
configuration. -/
theorem build_of_get? {c : Catalog} {configuration : Configuration} {text : String}
    (h : c.sources.get? configuration.subtype.layout = some text) (stamp : Nat) :
    c.build stamp configuration =
      match Descriptor.ofText? text with
      | none => .error (.malformed configuration)
      | some descriptor => descriptor.resolve stamp configuration := by
  cases hread : Descriptor.ofText? text with
  | none => simp only [build, h, hread]
  | some descriptor => simp only [build, h, hread]

/-- **Layouts of a directory do not depend on each other, nor on the order of its entries.**  In
whatever order the entries are listed, the directory is gathered if every file of a layout is a
file with a text, and the catalog is the same in every order.  Its names are those of the layouts
that have a file, strictly increasing in their bytes.  A configuration whose layout has no file is
answered so.  For any other one the text of that file is read: if it spells no descriptor, the
configuration is answered that, and if it does, what the descriptor is resolved to.  A catalog with
that text alone builds the same, so that what other files hold makes no difference. -/
theorem ofDirectory_independent (path : String) (content : SortedMap DirectoryEntry)
    (listed : List (String × DirectoryEntry)) (hlisted : listed.Perm content.entries) :
    ((∃ c, ofDirectory path (some (.directory listed)) = .ok c) ↔
      ∀ layout file, FileOf content layout file → ∃ text, file.Holds text) ∧
    ∀ c, ofDirectory path (some (.directory listed)) = .ok c →
      ofDirectory path (some (.directory content.entries)) = .ok c ∧
      c.names.Pairwise (fun a b => Text.utf8 a < Text.utf8 b) ∧
      (∀ layout, layout ∈ c.names ↔ ∃ file, FileOf content layout file) ∧
      ∀ stamp configuration,
        ((¬ ∃ file, FileOf content configuration.subtype.layout file) →
          c.build stamp configuration = .error (.missingDescriptor configuration)) ∧
        ∀ file text, FileOf content configuration.subtype.layout file → file.Holds text →
          (c.build stamp configuration =
            match Descriptor.ofText? text with
            | none => .error (.malformed configuration)
            | some descriptor => descriptor.resolve stamp configuration) ∧
          c.build stamp configuration =
            (empty.insert configuration.subtype.layout text).build stamp configuration := by
  constructor
  · rw [ofDirectory, ofEntries, exists_foldlM_insertEntry_iff]
    simp only [fileOf_iff hlisted]
    constructor
    · rintro h layout _ ⟨entry, hmem, hname, rfl⟩
      exact h entry hmem layout hname
    · intro h entry hmem layout hname
      exact h layout _ ⟨entry, hmem, hname, rfl⟩
  · intro c h
    have hget := get?_ofEntries_iff hlisted h
    have hreadable : ∀ layout file, FileOf content layout file → ∃ text, file.Holds text := by
      intro layout file hfile
      obtain ⟨entry, hmem, hname, rfl⟩ := (fileOf_iff hlisted).1 hfile
      exact (exists_foldlM_insertEntry_iff empty listed).1 ⟨c, h⟩ entry hmem layout hname
    refine ⟨?_, ?_, ?_, ?_⟩
    · -- in the order of the content something is gathered too, and it has the same descriptors
      obtain ⟨d, hd⟩ : ∃ d, ofEntries path content.entries = .ok d := by
        refine (exists_foldlM_insertEntry_iff empty content.entries).2 ?_
        intro entry hmem layout hname
        exact hreadable layout _ ((fileOf_iff (.refl _)).2 ⟨entry, hmem, hname, rfl⟩)
      have heq : d.sources = c.sources := SortedMap.ext_get? fun layout => Option.ext fun text =>
        (get?_ofEntries_iff (.refl _) hd layout text).trans (hget layout text).symm
      obtain rfl : d = c := congrArg Catalog.mk heq
      exact hd
    · exact c.sources.pairwise_keys.imp Text.utf8_lt
    · intro layout
      rw [names, SortedMap.mem_keys_iff]
      constructor
      · rintro ⟨text, htext⟩
        obtain ⟨file, hfile, -⟩ := (hget layout text).1 htext
        exact ⟨file, hfile⟩
      · rintro ⟨file, hfile⟩
        obtain ⟨text, hholds⟩ := hreadable layout file hfile
        exact ⟨text, (hget layout text).2 ⟨file, hfile, hholds⟩⟩
    · intro stamp configuration
      constructor
      · intro hnone
        have habsent : c.sources.get? configuration.subtype.layout = none := by
          refine Option.eq_none_iff_forall_ne_some.2 fun text htext => hnone ?_
          obtain ⟨file, hfile, -⟩ := (hget _ text).1 htext
          exact ⟨file, hfile⟩
        rw [build, habsent]
      · intro file text hfile hholds
        have halone : (empty.insert configuration.subtype.layout text).sources.get?
            configuration.subtype.layout = some text := by
          simp [insert]
        have hbuild := build_of_get? ((hget _ text).2 ⟨file, hfile, hholds⟩) stamp
        exact ⟨hbuild, hbuild.trans (build_of_get? halone stamp).symm⟩

/-- The text of a descriptor with an entry for the alphabet layer only. -/
def customText : String :=
  "\x7b\"name\": \"custom\", \"script\": \"latin\", " ++
    "\"variants\": \x7b\"alphabet\": \x7b\"top_padding\": 0.1\x7d\x7d\x7d"

/-- A directory with the files of three layouts, of which one is broken and one has no alphabet, and
entries that describe none: a directory whose name is a bare extension, one with the extension in
capitals, and a file that is no text. -/
def mixedDirectory : SortedMap DirectoryEntry :=
  .ofList
    [("qwerty.json", .file "[\"bare\"]".toUTF8), ("a.b.json", .file "[".toUTF8),
      ("custom.json", .file customText.toUTF8), (".json", .directory []),
      ("azerty.JSON", .directory []), ("notes.txt", .file ⟨#[0xff]⟩)]

/-- Listed from its end, that directory gives a catalog of three layouts.  A layout without a file
is missing there, the broken one and the one without an alphabet fail, and the third is built beside
them. -/
theorem ofDirectory_independent_of_mixed :
    let c := ((empty.insert "a.b" "[").insert "custom" customText).insert "qwerty" "[\"bare\"]"
    let listed := mixedDirectory.entries.reverse
    let configurationOf (layout : String) : Configuration :=
      { subtype := ⟨"en_US", layout⟩, height := 300 }
    listed.Perm mixedDirectory.entries ∧
      ofDirectory "layouts" (some (.directory listed)) = .ok c ∧
      ofDirectory "layouts" (some (.directory mixedDirectory.entries)) = .ok c ∧
      c.names = ["a.b", "custom", "qwerty"] ∧
      c.build 0 (configurationOf "azerty") =
        .error (.missingDescriptor (configurationOf "azerty")) ∧
      c.build 0 (configurationOf "a.b") = .error (.malformed (configurationOf "a.b")) ∧
      c.build 0 (configurationOf "qwerty") =
        .error (.missingAlphabet (configurationOf "qwerty")) ∧
      ∃ layout, c.build 0 (configurationOf "custom") = .ok layout ∧ layout.script = .latin ∧
        (layout.get .symbols).topPadding = 30 := by
  intro c listed configurationOf
  have hlisted : listed.Perm mixedDirectory.entries := List.reverse_perm _
  have hok : ofDirectory "layouts" (some (.directory listed)) = .ok c := rfl
  obtain ⟨hsame, -, hnames, hbuild⟩ :=
    (ofDirectory_independent "layouts" mixedDirectory listed hlisted).2 c hok
  have hmissing : ¬ ∃ file, FileOf mixedDirectory "azerty" file :=
    fun hfile => absurd ((hnames "azerty").2 hfile) (by decide)
  have hbroken : FileOf mixedDirectory "a.b" (.file "[".toUTF8) := ⟨by decide, rfl⟩
  have hbare : FileOf mixedDirectory "qwerty" (.file "[\"bare\"]".toUTF8) := ⟨by decide, rfl⟩
  have hcustom : FileOf mixedDirectory "custom" (.file customText.toUTF8) := ⟨by decide, rfl⟩
  refine ⟨hlisted, hok, hsame, rfl, (hbuild 0 _).1 hmissing, ?_, ?_, ?_⟩
  · exact ((hbuild 0 (configurationOf "a.b")).2 _ _ hbroken rfl).1.trans (by decide +kernel)
  · exact ((hbuild 0 (configurationOf "qwerty")).2 _ _ hbare rfl).1.trans (by decide +kernel)
  · have hbuilt := ((hbuild 0 (configurationOf "custom")).2 _ _ hcustom rfl).1
    have hlayout : ((c.build 0 (configurationOf "custom")).toOption.map fun layout =>
        (layout.script, (layout.get .symbols).topPadding)) = some (.latin, 30) := by
      rw [hbuilt]
      decide +kernel
    cases hc : c.build 0 (configurationOf "custom") with
    | error e =>
      rw [hc] at hlayout
      cases hlayout
    | ok layout =>
      rw [hc] at hlayout
      obtain ⟨hscript, hpadding⟩ := Prod.mk.inj (Option.some.inj hlayout)
      exact ⟨layout, rfl, hscript, hpadding⟩

end Catalog

end SoftKeyboard
