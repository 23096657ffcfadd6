import StrategyDesk.Proofs.Analysis.Import
import StrategyDesk.Proofs.Analysis.Sources
import StrategyDesk.Proofs.Script.HeaderForm

/-!
# The search for a module

The first file that has a header of a module settles the search for it: if there is no block after
the header, the module is not found, whatever later files hold. So a new file may hide a module
that was found before, and it does exactly if it has a header without a block and no file before it
has a header.
-/

set_option autoImplicit false

namespace StrategyDesk

open Script

namespace Module

/-- Whether a content, once masked, has a header of the module. The name has to stand in it in two
quotes of one kind, if only in a comment. -/
def HasHeader (name content : Text) : Prop :=
  mentions name content = true ∧ ∃ before header rest,
    mask content = before ++ (header ++ rest) ∧ IsModuleHeader name header

/-- Whether a content has a header of the module and a block after it. -/
def HasBlock (name content : Text) : Prop :=
  mentions name content = true ∧ ∃ before header rest,
    mask content = before ++ (header ++ rest) ∧ IsModuleHeader name header ∧ '\x7b' ∈ rest

theorem HasBlock.hasHeader {name content : Text} (has : HasBlock name content) :
    HasHeader name content := by
  obtain ⟨mentioned, before, header, rest, split, form, _⟩ := has
  exact ⟨mentioned, before, header, rest, split, form⟩

theorem search_cases (name content : Text) :
    (search name content = .absent ∧ ¬ HasHeader name content) ∨
      (search name content = .broken ∧ HasHeader name content ∧ ¬ HasBlock name content) ∨
        ∃ module, search name content = .found module ∧ HasBlock name content := by
  cases mentioned : mentions name content with
  | false =>
      refine Or.inl ⟨by simp [search, mentioned], ?_⟩
      rintro ⟨mentions, _⟩
      rw [mentioned] at mentions
      cases mentions
  | true =>
      rcases firstHeader_cases name (mask content) with
        ⟨headless, none_found⟩ | ⟨before, header, rest, split, form, head, behind⟩
      · refine Or.inl ⟨by simp [search, mentioned, none_found], ?_⟩
        rintro ⟨_, before, header, rest, split, form⟩
        exact headless before header rest split form
      · have blocks := Cursor.block?_isSome_iff (Cursor.mk (before.length + header.length) rest)
        have headed : HasHeader name content := ⟨mentioned, before, header, rest, split, form⟩
        cases block : (Cursor.mk (before.length + header.length) rest).block? with
        | some body =>
            rw [block] at blocks
            refine Or.inr (Or.inr ⟨ofBody (content.slice body.start body.stop) body.text, ?_,
              mentioned, before, header, rest, split, form, blocks.mp rfl⟩)
            simp [search, mentioned, head, block]
        | none =>
            rw [block] at blocks
            refine Or.inr (Or.inl ⟨by simp [search, mentioned, head, block], headed, ?_⟩)
            rintro ⟨_, before', header', rest', split', form', opens⟩
            have opened := (behind before' header' rest' split' form').mem opens
            cases blocks.mpr opened

theorem search_eq_found {name content : Text} {cursor : Cursor} {body : Span}
    (mentioned : mentions name content = true)
    (head : (occurrences anywhere (moduleHeader? name) (mask content)).head? = some cursor)
    (block : cursor.block? = some body) :
    search name content = .found (ofBody (content.slice body.start body.stop) body.text) := by
  simp [search, mentioned, head, block]

theorem search_of_headless {name content : Text} (headless : ¬ HasHeader name content) :
    search name content = .absent := by
  rcases search_cases name content with ⟨absent, _⟩ | ⟨_, header, _⟩ | ⟨_, _, block⟩
  · exact absent
  · exact absurd header headless
  · exact absurd block.hasHeader headless

/-! ## The first file with a header -/

theorem firstIn?_of_headless {name : Text} {before : List Text}
    (headless : ∀ content ∈ before, ¬ HasHeader name content) (rest : List Text) :
    firstIn? name (before ++ rest) = firstIn? name rest := by
  induction before with
  | nil => rfl
  | cons content before ih =>
      rw [List.cons_append, firstIn?, search_of_headless (headless content List.mem_cons_self)]
      exact ih fun other later => headless other (List.mem_cons_of_mem _ later)

theorem firstIn?_of_header {name content : Text} (header : HasHeader name content)
    (rest : List Text) : firstIn? name (content :: rest) = none ↔ ¬ HasBlock name content := by
  rw [firstIn?]
  rcases search_cases name content with
    ⟨_, headless⟩ | ⟨broken, _, blockless⟩ | ⟨module, found, block⟩
  · exact absurd header headless
  · rw [broken]
    exact ⟨fun _ => blockless, fun _ => rfl⟩
  · rw [found]
    constructor
    · intro none_found
      cases none_found
    · intro blockless
      exact absurd block blockless

theorem exists_first_header (name : Text) (sources : List (String × Text)) :
    (∀ source ∈ sources, ¬ HasHeader name source.2) ∨
      ∃ before source after, sources = before ++ source :: after ∧
        (∀ earlier ∈ before, ¬ HasHeader name earlier.2) ∧ HasHeader name source.2 := by
  induction sources with
  | nil => exact Or.inl (by simp)
  | cons first rest ih =>
      by_cases header : HasHeader name first.2
      · exact Or.inr ⟨[], first, rest, rfl, by simp, header⟩
      · have none_before {before : List (String × Text)}
            (headless : ∀ earlier ∈ before, ¬ HasHeader name earlier.2) :
            ∀ earlier ∈ first :: before, ¬ HasHeader name earlier.2 := by
          intro earlier inside
          rcases List.mem_cons.mp inside with rfl | later
          · exact header
          · exact headless earlier later
        rcases ih with headless | ⟨before, source, after, rfl, headless, found⟩
        · exact Or.inl (none_before headless)
        · exact Or.inr ⟨first :: before, source, after, rfl, none_before headless, found⟩

/-- Whether a file is the first one in the order of the search that has a header of the module. -/
structure FirstHeader (files : FileSystem) (name : Text) (path : String) (content : Text) :
    Prop where
  readable : files.read? path = some content
  header : HasHeader name content
  headless_before : ∀ earlier text, files.read? earlier = some text →
    files.Precedes earlier path → ¬ HasHeader name text

theorem FirstHeader.of_split {files : FileSystem} {name : Text}
    {before after : List (String × Text)} {source : String × Text}
    (split : files.sources = before ++ source :: after)
    (headless : ∀ earlier ∈ before, ¬ HasHeader name earlier.2)
    (header : HasHeader name source.2) : FirstHeader files name source.1 source.2 := by
  refine ⟨(files.mem_sources_iff source).mp (by simp [split]), header, ?_⟩
  intro earlier text read precedes
  have inside := (files.mem_sources_iff (earlier, text)).mpr read
  have ordered := files.sources_ordered
  rw [split, List.pairwise_append, List.pairwise_cons] at ordered
  rw [split, List.mem_append, List.mem_cons] at inside
  rcases inside with front | rfl | back
  · exact headless (earlier, text) front
  · exact absurd precedes precedes.asymm
  · exact absurd precedes (ordered.2.1.1 (earlier, text) back).asymm

theorem FirstHeader.exists_split {files : FileSystem} {name content : Text} {path : String}
    (first : FirstHeader files name path content) :
    ∃ before after, files.sources = before ++ (path, content) :: after ∧
      ∀ earlier ∈ before, ¬ HasHeader name earlier.2 := by
  have inside := (files.mem_sources_iff (path, content)).mpr first.readable
  obtain ⟨before, after, split⟩ := List.append_of_mem inside
  refine ⟨before, after, split, ?_⟩
  intro earlier front
  have ordered := files.sources_ordered
  rw [split, List.pairwise_append] at ordered
  have precedes := ordered.2.2 earlier front (path, content) List.mem_cons_self
  have held : earlier ∈ files.sources := split ▸ List.mem_append_left _ front
  exact first.headless_before earlier.1 earlier.2 ((files.mem_sources_iff earlier).mp held) precedes

theorem find?_of_headless_front {files : FileSystem} {name : Text}
    {before rest : List (String × Text)} (split : files.sources = before ++ rest)
    (headless : ∀ earlier ∈ before, ¬ HasHeader name earlier.2) :
    find? files name = firstIn? name (rest.map Prod.snd) := by
  rw [find?, split, List.map_append]
  refine firstIn?_of_headless ?_ _
  intro content inside
  obtain ⟨source, front, rfl⟩ := List.mem_map.mp inside
  exact headless source front

theorem find?_eq_none_iff (files : FileSystem) (name : Text) :
    find? files name = none ↔
      (∀ path content, files.read? path = some content → ¬ HasHeader name content) ∨
        ∃ path content, FirstHeader files name path content ∧ ¬ HasBlock name content := by
  constructor
  · intro none_found
    rcases exists_first_header name files.sources with
      headless | ⟨before, source, after, split, headless, header⟩
    · refine Or.inl ?_
      intro path content read
      exact headless (path, content) ((files.mem_sources_iff _).mpr read)
    · rw [find?_of_headless_front split headless, List.map_cons,
        firstIn?_of_header header] at none_found
      exact Or.inr ⟨source.1, source.2, .of_split split headless header, none_found⟩
  · rintro (headless | ⟨path, content, first, blockless⟩)
    · have none_headed : ∀ source ∈ files.sources, ¬ HasHeader name source.2 :=
        fun source held => headless source.1 source.2 ((files.mem_sources_iff source).mp held)
      rw [find?_of_headless_front (List.append_nil _).symm none_headed]
      rfl
    · obtain ⟨before, after, split, headless⟩ := first.exists_split
      rw [find?_of_headless_front split headless, List.map_cons, firstIn?_of_header first.header]
      exact blockless

/-! ## A new file -/

theorem firstIn?_append_of_header {name : Text} {before : List Text}
    (headed : ∃ content ∈ before, HasHeader name content) (rest rest' : List Text) :
    firstIn? name (before ++ rest) = firstIn? name (before ++ rest') := by
  induction before with
  | nil =>
      obtain ⟨_, inside, _⟩ := headed
      cases inside
  | cons content before ih =>
      rw [List.cons_append, List.cons_append, firstIn?, firstIn?]
      rcases search_cases name content with
        ⟨absent, headless⟩ | ⟨broken, _, _⟩ | ⟨module, found, _⟩
      · rw [absent]
        refine ih ?_
        obtain ⟨other, inside, header⟩ := headed
        rcases List.mem_cons.mp inside with rfl | later
        · exact absurd header headless
        · exact ⟨other, later, header⟩
      · rw [broken]
      · rw [found]

theorem find?_write_new_eq_none_iff {files : FileSystem} {name : Text} {path : String}
    (fresh : files.read? path = none) (resolved : find? files name ≠ none) (content : Text) :
    find? (files.write path content).1 name = none ↔
      HasHeader name content ∧ ¬ HasBlock name content ∧
        ∀ earlier file, files.file? earlier = some file → earlier < path →
          ¬ HasHeader name file.content := by
  obtain ⟨front, later, split, written, among⟩ := FileSystem.sources_write_new fresh content
  by_cases headless : ∀ source ∈ front, ¬ HasHeader name source.2
  · have headless' : ∀ earlier file, files.file? earlier = some file → earlier < path →
        ¬ HasHeader name file.content := fun earlier file held less =>
      headless (earlier, file.content) ((among _).mpr ⟨file, held, rfl, less⟩)
    rw [find?_of_headless_front split headless] at resolved
    rw [find?_of_headless_front written headless, List.map_cons]
    by_cases header : HasHeader name content
    · rw [firstIn?_of_header header]
      exact ⟨fun blockless => ⟨header, blockless, headless'⟩, fun lost => lost.2.1⟩
    · rw [firstIn?, search_of_headless header]
      exact ⟨fun none_found => absurd none_found resolved, fun lost => absurd lost.1 header⟩
  · have headed : ∃ text ∈ front.map Prod.snd, HasHeader name text := by
      by_contra none_headed
      apply headless
      intro source inside header
      exact none_headed ⟨source.2, List.mem_map_of_mem inside, header⟩
    have kept : find? (files.write path content).1 name = find? files name := by
      rw [find?, find?, split, written, List.map_append, List.map_append]
      exact firstIn?_append_of_header headed _ _
    rw [kept]
    refine ⟨fun none_found => absurd none_found resolved, ?_⟩
    rintro ⟨_, _, headless'⟩
    apply absurd ?_ headless
    intro source inside
    obtain ⟨file, held, same, less⟩ := (among source).mp inside
    rw [← same]
    exact headless' source.1 file held less

/-- A module is not found if no file that can be read has a header of it, or if there is no block
after the header in the first file that has one. A new file hides a module that was found if and
only if it comes to be such a first file, and then each import of the module is reported. -/
theorem lost_iff_bodiless_first (files : FileSystem) (name : Text) :
    (find? files name = none ↔
      (∀ path content, files.read? path = some content → ¬ HasHeader name content) ∨
        ∃ path content, FirstHeader files name path content ∧ ¬ HasBlock name content) ∧
    (∀ path content, files.read? path = none → find? files name ≠ none →
      (find? (files.write path content).1 name = none ↔
        HasHeader name content ∧ ¬ HasBlock name content ∧
          ∀ earlier file, files.file? earlier = some file → earlier < path →
            ¬ HasHeader name file.content)) ∧
    ∀ statement : ImportStatement, statement.specifier.text = name →
      ((∃ finding ∈ (Resolution.ofImport files statement).findings, finding.code = 2307) ↔
        find? files name = none) := by
  refine ⟨find?_eq_none_iff files name, ?_, ?_⟩
  · intro path content fresh resolved
    exact find?_write_new_eq_none_iff fresh resolved content
  · rintro statement rfl
    exact Resolution.missing_reported_iff files statement

/-- A file `declare module "m";` hides the module `m` of a file behind it. -/
theorem bodiless_file_hides :
    find? ((FileSystem.onSnapshot .empty).write "/b" "declare module \"m\" \x7b\x7d".toList).1
        ['m'] ≠ none ∧
      find? (((FileSystem.onSnapshot .empty).write "/b"
          "declare module \"m\" \x7b\x7d".toList).1.write "/a"
            "declare module \"m\";".toList).1 ['m'] = none := by
  have resolved : find? ((FileSystem.onSnapshot .empty).write "/b"
      "declare module \"m\" \x7b\x7d".toList).1 ['m'] ≠ none := by
    decide +kernel
  refine ⟨resolved, ?_⟩
  refine ((lost_iff_bodiless_first _ ['m']).2.1 "/a" _ (by decide +kernel) resolved).mpr ?_
  have broken : search ['m'] "declare module \"m\";".toList = .broken := rfl
  rcases search_cases ['m'] "declare module \"m\";".toList with
    ⟨absent, _⟩ | ⟨_, header, blockless⟩ | ⟨module, found, _⟩
  · rw [broken] at absent
    cases absent
  · refine ⟨header, blockless, ?_⟩
    intro earlier file held less
    have inside : (earlier, file) ∈
        [("/b", OwnFile.mk "declare module \"m\" \x7b\x7d".toList 1)] :=
      (PathMap.mem_entries_iff _ (earlier, file)).mpr held
    cases List.mem_singleton.mp inside
    exact absurd less (by decide +kernel)
  · rw [broken] at found
    cases found

end Module

end StrategyDesk
