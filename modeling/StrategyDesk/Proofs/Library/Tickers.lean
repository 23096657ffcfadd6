import StrategyDesk.Proofs.Library.Instruments
import StrategyDesk.Proofs.Script.EnumBody
import StrategyDesk.Proofs.Script.Word

/-!
# Tickers of any characters

Tickers are written into the module of instruments as they are. A comment that is opened in one of
them goes on over those behind it, and a brace in one of them moves the end of the enumeration. A
ticker that is a plain name is read as a member where it stands if neither happens before it. In any
case the import is resolved.
-/

set_option autoImplicit false

namespace StrategyDesk.Library

open Script

variable {tickers before after : List Text} {name : Text}

/-! ## The list around a ticker -/

def frontOf (before : List Text) : Text := before.flatMap (· ++ ", ".toList)

def restOf (after : List Text) : Text := after.flatMap (", ".toList ++ ·)

theorem intercalate_cons_eq (name : Text) (after : List Text) :
    ", ".toList.intercalate (name :: after) = name ++ restOf after := by
  induction after generalizing name with
  | nil => simp [restOf]
  | cons next after ih =>
      rw [List.intercalate_cons_cons, ih, restOf, restOf, List.flatMap_cons, List.append_assoc,
        List.append_assoc]

theorem intercalate_split (before after : List Text) (name : Text) :
    ", ".toList.intercalate (before ++ name :: after) =
      frontOf before ++ (name ++ restOf after) := by
  induction before with
  | nil => exact intercalate_cons_eq name after
  | cons first before ih =>
      obtain ⟨next, later, more⟩ := List.exists_cons_of_ne_nil
        (List.append_ne_nil_of_right_ne_nil before (List.cons_ne_nil name after))
      rw [List.cons_append, more, List.intercalate_cons_cons, ← more, ih, frontOf, frontOf,
        List.flatMap_cons, List.append_assoc (first ++ ", ".toList)]

theorem exists_region_frontOf (before : List Text) :
    ∃ region : Region,
      (∀ rest, mask (frontOf before ++ rest) = mask (frontOf before) ++ maskFrom region rest) ∧
      (region.Blanks ∨ region.Keeps ∧ BeginsMember (mask (frontOf before))) := by
  rcases List.eq_nil_or_concat before with rfl | ⟨earlier, last, rfl⟩
  · exact ⟨.code, fun rest => rfl, Or.inr ⟨.code, .of_blanks nofun⟩⟩
  · have front (rest : Text) : frontOf (earlier.concat last) ++ rest =
        (frontOf earlier ++ last) ++ ',' :: ' ' :: rest := by
      rw [frontOf, List.concat_eq_append, List.flatMap_append, List.flatMap_singleton, frontOf]
      simp
    have alone := front []
    rw [List.append_nil] at alone
    obtain ⟨masked, region, ⟨blanks, split⟩ | ⟨keeps, split⟩⟩ :=
      exists_reachesComma (Or.inl .code) (frontOf earlier ++ last)
    · refine ⟨region, fun rest => ?_, Or.inl blanks⟩
      rw [front, alone, mask, mask, split, split, maskFrom_space (Or.inr blanks),
        maskFrom_space (Or.inr blanks), maskFrom_nil, List.append_assoc]
      rfl
    · have masked_front : mask (frontOf (earlier.concat last)) = masked ++ ',' :: [' '] := by
        rw [alone, mask, split, maskFrom_space (Or.inl keeps), maskFrom_nil]
      refine ⟨region, fun rest => ?_, Or.inr ⟨keeps, ?_⟩⟩
      · rw [front, masked_front, mask, split, maskFrom_space (Or.inl keeps), List.append_assoc]
        rfl
      · rw [masked_front]
        exact .behind_comma (.of_blanks someBlanks_space.blank) masked

/-! ## A ticker that is read where it stands -/

/-- Whether a ticker is read as a member where it stands in the list: no comment goes on into it, no
brace before it ends the enumeration, and if it is the last one, none before it is left open. -/
structure Exposed (before : List Text) (name : Text) (after : List Text) : Prop where
  unmasked : mask (frontOf before ++ name) = mask (frontOf before) ++ name
  inside : ∃ depth, bracesOpen 0 (mask (frontOf before)) = some depth ∧ (after = [] → depth = 0)

theorem idle_of_ascii (named : IsAsciiName name) :
    ∀ c ∈ name, isQuote c = false ∧ c ≠ '/' ∧ c ≠ '\\' ∧ c ≠ '\n' := by
  intro c inside
  have plain := plain_of_isNameChar (isNameChar_of_isAsciiNameChar (named.within c inside))
  rw [Bool.and_eq_true, Bool.not_eq_true', bne_iff_ne] at plain
  have differs {d : Char} (other : isAsciiNameChar d = false) : c ≠ d :=
    ne_of_mem_of_not_mem inside (named.notMem other)
  exact ⟨plain.1, plain.2, differs (by decide), differs (by decide)⟩

/-- In a comment a name is not kept. -/
theorem keeps_of_named {region : Region} (reached : region.Keeps ∨ region.Blanks)
    (named : IsAsciiName name) {rest masked : Text}
    (kept : maskFrom region (name ++ rest) = name ++ masked) : region.Keeps := by
  refine reached.resolve_right fun blanks => ?_
  obtain ⟨c, later, rfl, _⟩ := named.isName.head
  have differs {d : Char} (other : isAsciiNameChar d = false) : c ≠ d :=
    ne_of_mem_of_not_mem List.mem_cons_self (named.notMem other)
  rw [List.cons_append, maskFrom_blanked blanks (differs (by decide)) (differs (by decide))] at kept
  exact differs (by decide) (List.cons.inj kept).1.symm

theorem universeBody_split {region : Region}
    (split : ∀ rest,
      mask (frontOf before ++ rest) = mask (frontOf before) ++ maskFrom region rest) :
    universeBody (before ++ name :: after) =
      blockBody 0 ((['\n', ' ', ' ', ' ', ' '] ++ mask (frontOf before)) ++
        maskFrom region (name ++ (restOf after ++ universeClosing))) := by
  rw [universeBody, universeTail, intercalate_split, List.append_assoc, List.append_assoc, split,
    List.append_assoc]

theorem bracesOpen_padded (text : Text) :
    bracesOpen 0 (['\n', ' ', ' ', ' ', ' '] ++ text) = bracesOpen 0 text := by
  rw [bracesOpen_append, bracesOpen_bare (by decide) (by decide), Option.bind_some]

theorem blockBody_named (named : IsAsciiName name) (depth : Nat) (rest : Text) :
    blockBody depth (name ++ rest) = name ++ blockBody depth rest :=
  blockBody_bare (named.notMem (by decide)) (named.notMem (by decide)) depth rest

/-- Where a name is not in a comment, what follows it ends the member, except behind the last ticker
with a brace open. -/
theorem endsMember_iff {region : Region} (keeps : region.Keeps) (depth : Nat) :
    EndsMember (blockBody depth (maskFrom region (restOf after ++ universeClosing))) ↔
      (after = [] → depth = 0) := by
  cases after with
  | nil =>
      have closing : maskFrom region (restOf [] ++ universeClosing) = universeClosing :=
        maskFrom_slashless keeps (by decide +kernel)
      rw [closing, universeClosing_eq]
      cases depth with
      | zero =>
          refine iff_of_true ⟨['\n', ' ', ' '], [], ?_, isBlanks_newLine, nofun⟩ fun _ => rfl
          rw [blockBody_bare (by decide) (by decide), blockBody_end]
      | succ depth =>
          refine iff_of_false (fun ends => ?_) (by simp)
          rw [blockBody_bare (by decide) (by decide), blockBody_closer] at ends
          rcases ends.solid isBlanks_newLine (by decide) with comma | equals
          · cases comma
          · cases equals
  | cons next after =>
      have list : restOf (next :: after) ++ universeClosing =
          ',' :: ' ' :: (next ++ (restOf after ++ universeClosing)) := by
        simp [restOf]
      rw [list, maskFrom_idle keeps (by decide), blockBody_cons, if_neg (by decide),
        if_neg (by decide)]
      refine iff_of_true ⟨[], _, rfl, nofun, ?_⟩ nofun
      exact fun c first => Or.inl (Option.some.inj first).symm

theorem member_of_exposed (named : IsAsciiName name) (exposed : Exposed before name after) :
    name ∈ (instruments (before ++ name :: after)).members := by
  obtain ⟨unmasked, depth, count, enclosed⟩ := exposed
  obtain ⟨region, split, open_region⟩ := exists_region_frontOf before
  have kept : maskFrom region (name ++ []) = name ++ [] := by
    rw [List.append_nil]
    exact List.append_cancel_left ((split name).symm.trans unmasked)
  have keeps := keeps_of_named (open_region.symm.imp_left And.left) named kept
  have begins : BeginsMember (mask (frontOf before)) := by
    rcases open_region with blanks | ⟨_, begins⟩
    · cases keeps <;> cases blanks
    · exact begins
  refine (mem_enumMembers_iff name _).mpr ⟨named.isWord, _, _, ?_,
    begins.behind_blanks isBlanks_deeperLine, (endsMember_iff keeps depth).mpr enclosed⟩
  rw [universeBody_split split, blockBody_append ((bracesOpen_padded _).trans count),
    maskFrom_idles keeps (idle_of_ascii named), blockBody_named named]

/-! ## A ticker that no other one holds -/

theorem restOf_stops (named : IsAsciiName name) (after : List Text) :
    ∃ c rest, restOf after ++ universeClosing = c :: rest ∧ c ∉ name := by
  cases after with
  | nil => exact ⟨'\n', _, rfl, named.notMem (by decide)⟩
  | cons next after => exact ⟨',', _, rfl, named.notMem (by decide)⟩

theorem not_infix_restOf (named : IsAsciiName name) (alone : ∀ other ∈ after, ¬ name <:+: other) :
    ¬ name <:+: restOf after ++ universeClosing := by
  have filled : ¬ name <:+: [] := List.infix_nil.not.mpr named.isWord.1
  induction after with
  | nil =>
      intro inside
      obtain ⟨c, later, rfl, _⟩ := named.isName.head
      have other : universeClosing.all (fun c => !isAsciiNameChar c) = true := by decide +kernel
      have here := List.all_eq_true.mp other c (inside.mem List.mem_cons_self)
      rw [named.within c List.mem_cons_self] at here
      cases here
  | cons next after ih =>
      intro inside
      have list : restOf (next :: after) ++ universeClosing =
          [] ++ ',' :: ([] ++ ' ' :: (next ++ (restOf after ++ universeClosing))) := by
        simp [restOf]
      obtain ⟨c, rest, behind, stops⟩ := restOf_stops named after
      have later := ih fun other held => alone other (List.mem_cons_of_mem _ held)
      rw [list, behind] at inside
      have inside' := (infix_of_stop (named.notMem (by decide)) inside).resolve_left filled
      have inside'' := (infix_of_stop (named.notMem (by decide)) inside').resolve_left filled
      rcases infix_of_stop stops inside'' with here | beyond
      · exact alone next List.mem_cons_self here
      · exact later (behind ▸ List.infix_cons beyond)

theorem front_of_alone (named : IsAsciiName name)
    (alone : ∀ other ∈ before ++ after, ¬ name <:+: other) {front back : Text}
    (same : front ++ (name ++ back) =
      frontOf before ++ (name ++ (restOf after ++ universeClosing))) : front = frontOf before := by
  have filled {text between : Text} : [] ≠ text ++ (name ++ between) := by
    simp [named.isWord.1]
  induction before generalizing front with
  | nil =>
      obtain ⟨c, rest, behind, stops⟩ := restOf_stops named after
      have beyond : ¬ name <:+: restOf after ++ universeClosing := not_infix_restOf named alone
      rw [frontOf, List.flatMap_nil, List.nil_append, behind] at same
      rw [behind] at beyond
      rcases side_of_stop stops same with ⟨between, here⟩ | ⟨between, _, rfl⟩
      · have length := congrArg List.length here
        rw [List.length_append, List.length_append] at length
        exact List.eq_nil_of_length_eq_zero (by omega)
      · exact absurd ⟨c :: between, back, by simp⟩ beyond
  | cons first before ih =>
      have list : frontOf (first :: before) ++ (name ++ (restOf after ++ universeClosing)) =
          first ++ ',' :: ([] ++ ' ' ::
            (frontOf before ++ (name ++ (restOf after ++ universeClosing)))) := by
        simp [frontOf]
      rw [list] at same
      rcases side_of_stop (named.notMem (by decide)) same with ⟨between, here⟩ |
        ⟨between, rfl, same'⟩
      · exact absurd ⟨front, between, by rw [here, List.append_assoc]⟩
          (alone first List.mem_cons_self)
      · rcases side_of_stop (named.notMem (by decide)) same'.symm with ⟨_, here⟩ |
          ⟨between', rfl, same''⟩
        · exact absurd here filled
        · have later := ih (fun other held => alone other (List.mem_cons_of_mem _ held)) same''.symm
          rw [later, frontOf, frontOf, List.flatMap_cons]
          simp

theorem exists_behind_blanks (named : IsAsciiName name) {blanks text front back : Text}
    (blank : IsBlanks blanks) (same : front ++ (name ++ back) = blanks ++ text) :
    ∃ front', front = blanks ++ front' ∧ front' ++ (name ++ back) = text := by
  rcases List.append_eq_append_iff.mp same with ⟨inside, rfl, split⟩ | ⟨beyond, rfl, split⟩
  · cases inside with
    | nil => exact ⟨[], by simp, split⟩
    | cons c inside =>
        obtain ⟨d, later, rfl, _⟩ := named.isName.head
        obtain ⟨rfl, _⟩ := List.cons.inj split
        have solid := isBlank_of_isAsciiNameChar (named.within d List.mem_cons_self)
        rw [blank d (by simp)] at solid
        cases solid
  · exact ⟨beyond, rfl, split.symm⟩

theorem exposed_of_member (named : IsAsciiName name)
    (alone : ∀ other ∈ before ++ after, ¬ name <:+: other)
    (held : name ∈ (instruments (before ++ name :: after)).members) :
    Exposed before name after := by
  obtain ⟨_, front, rest, body, _, ends⟩ := (mem_enumMembers_iff name _).mp held
  obtain ⟨region, split, open_region⟩ := exists_region_frontOf before
  obtain ⟨more, reached⟩ := blockBody_prefix 0 (universeTail (before ++ name :: after))
  rw [← universeBody, body, List.append_assoc, List.append_assoc, universeTail, intercalate_split,
    List.append_assoc, List.append_assoc] at reached
  obtain ⟨front, rfl, masked⟩ := exists_behind_blanks named isBlanks_deeperLine reached
  obtain ⟨front', rest', written, length⟩ :=
    exists_of_masked masked.symm (named.notMem (by decide))
  have place := front_of_alone named alone written.symm
  rw [place, ← mask_length (frontOf before)] at length
  rw [split] at masked
  obtain ⟨rfl, kept⟩ := List.append_inj masked length.symm
  have keeps := keeps_of_named (open_region.symm.imp_left And.left) named kept.symm
  rw [universeBody_split split] at body
  constructor
  · have whole := maskFrom_idles keeps (idle_of_ascii named) []
    rw [maskFrom_nil, List.append_nil] at whole
    rw [split, whole]
  · cases count : bracesOpen 0 (mask (frontOf before)) with
    | none =>
        have shorter := blockBody_length_lt ((bracesOpen_padded _).trans count)
          (maskFrom region (name ++ (restOf after ++ universeClosing)))
        rw [body] at shorter
        exact absurd (List.prefix_append _ _).length_le (Nat.not_le_of_lt shorter)
    | some depth =>
        refine ⟨depth, rfl, (endsMember_iff keeps depth).mp ?_⟩
        rw [blockBody_append ((bracesOpen_padded _).trans count),
          maskFrom_idles keeps (idle_of_ascii named), blockBody_named named] at body
        rw [List.append_cancel_left (List.append_cancel_left body)]
        exact ends

/-! ## What is accepted -/

theorem exposed_of_plain (named : IsAsciiName name) (plain : ∀ ticker ∈ before, Plain ticker) :
    Exposed before name after := by
  have absent {c : Char} (comma : c ≠ ',') (space : c ≠ ' ') (nowhere : ∀ ticker ∈ before,
      c ∉ ticker) : c ∉ frontOf before := by
    have nowhere' : ∀ entry ∈ before ++ [[]], c ∉ entry := by
      intro entry held
      rcases List.mem_append.mp held with listed | last
      · exact nowhere entry listed
      · exact List.mem_singleton.mp last ▸ List.not_mem_nil
    have list := notMem_intercalate comma space nowhere'
    rw [intercalate_split] at list
    exact fun inside => list (List.mem_append_left _ inside)
  have slashless : '/' ∉ frontOf before :=
    absent (by decide) (by decide) fun ticker held => (plain ticker held).slashless
  have slashless' : '/' ∉ frontOf before ++ name := by
    rw [List.mem_append, not_or]
    exact ⟨slashless, named.notMem (by decide)⟩
  refine ⟨?_, 0, ?_, fun _ => rfl⟩
  · rw [mask, mask, maskFrom_slashless .code slashless, maskFrom_slashless .code slashless']
  · rw [mask, maskFrom_slashless .code slashless]
    refine bracesOpen_bare (absent (by decide) (by decide) fun ticker held => ?_)
      (absent (by decide) (by decide) fun ticker held => ?_) 0
    · exact (plain ticker held).unopened
    · exact (plain ticker held).unclosed

/-- Whatever the tickers are, the import of the instruments is resolved. In a list of one instrument
nothing is reported, or its name alone: nothing if and only if the name stands between commas in the
body of the enumeration as it is masked and ends. A ticker that is exposed where it stands, so that
no comment and no brace of those before it reaches it, is accepted, and so is one behind tickers
without slashes and braces. If no other ticker holds its name, a ticker is accepted only if it is
exposed. -/
theorem ticker_accepted_iff {env : Environment} (knows : KnowsUniverse env tickers)
    (named : IsAsciiName name) {path : String}
    (read : env.files.read? path = some (importing (listing name))) :
    (∃ binding, (Resolution.ofScript env.files (importing (listing name))).binding?
        "Instrument".toList = some binding ∧ binding.declaration = instruments tickers) ∧
    (env.findings path = [] ∨ env.findings path = [.error listedPlace name.length 2339
      s!"Property '{String.ofList name}' does not exist on type 'typeof Instrument'."]) ∧
    (env.findings path = [] ↔ ∃ front rest, universeBody tickers = front ++ (name ++ rest) ∧
      BeginsMember front ∧ EndsMember rest) ∧
    ∀ before after, tickers = before ++ name :: after →
      (Exposed before name after → env.findings path = []) ∧
      ((∀ ticker ∈ before, Plain ticker) → env.findings path = []) ∧
      ((∀ other ∈ before ++ after, ¬ name <:+: other) →
        (env.findings path = [] ↔ Exposed before name after)) := by
  have findings := findings_importing knows named read
  have accepted : env.findings path = [] ↔ name ∈ (instruments tickers).members := by
    rw [findings, ite_eq_left_iff]
    exact ⟨fun listed => by_contra fun missing => List.cons_ne_nil _ _ (listed missing),
      fun listed missing => absurd listed missing⟩
  refine ⟨(resolution_importing knows.holds (listing name)).1, ?_, ?_, ?_⟩
  · rw [findings]
    exact ite_eq_or_eq _ _ _
  · rw [accepted, instruments, mem_enumMembers_iff, and_iff_right named.isWord]
  · rintro before after rfl
    refine ⟨fun exposed => accepted.mpr (member_of_exposed named exposed),
      fun plain => accepted.mpr (member_of_exposed named (exposed_of_plain named plain)), ?_⟩
    intro alone
    rw [accepted]
    exact ⟨exposed_of_member named alone, member_of_exposed named⟩

/-- A sandbox with the module of these tickers and a script that lists the instrument `SPY`. -/
def spySandbox (tickers : List Text) : Environment :=
  let library := ((FileSystem.onSnapshot .empty).write universePath (universeModule tickers)).1
  .create "spy" (library.write "/a.ts" (importing (listing "SPY".toList))).1 Structural.service

theorem read?_spySandbox (tickers : List Text) :
    (spySandbox tickers).files.read? "/a.ts" = some (importing (listing "SPY".toList)) :=
  FileSystem.read?_write_self _ _ _

theorem knowsUniverse_spySandbox (tickers : List Text) :
    KnowsUniverse (spySandbox tickers) tickers := by
  have held : (spySandbox tickers).files.read? universePath = some (universeModule tickers) :=
    (FileSystem.read?_write_of_ne (by decide +kernel) _ _).trans
      (FileSystem.read?_write_self _ _ _)
  refine ⟨rfl, rfl, held, ?_⟩
  intro path content other read
  by_cases script : path = "/a.ts"
  · rw [script, read?_spySandbox] at read
    cases read
    exact Module.not_hasHeader_of_undeclared (by decide +kernel)
  · have none_else : (spySandbox tickers).files.read? path = none :=
      (FileSystem.read?_write_of_ne script _ _).trans (FileSystem.read?_write_of_ne other _ _)
    rw [none_else] at read
    cases read

/-- A ticker that opens a comment hides the one behind it, and none before it. -/
theorem slashes_hide_later_ticker :
    (KnowsUniverse (spySandbox ["//".toList, "SPY".toList]) ["//".toList, "SPY".toList] ∧
      (spySandbox ["//".toList, "SPY".toList]).findings "/a.ts" = [.error listedPlace 3 2339
        "Property 'SPY' does not exist on type 'typeof Instrument'."]) ∧
    (spySandbox ["SPY".toList, "//".toList]).findings "/a.ts" = [] := by
  have knows := knowsUniverse_spySandbox
  have named : IsAsciiName "SPY".toList := by decide +kernel
  obtain ⟨_, either, _, there⟩ :=
    ticker_accepted_iff (knows ["//".toList, "SPY".toList]) named (read?_spySandbox _)
  obtain ⟨_, _, _, first⟩ :=
    ticker_accepted_iff (knows ["SPY".toList, "//".toList]) named (read?_spySandbox _)
  refine ⟨⟨knows _, either.resolve_left fun accepted => ?_⟩, ?_⟩
  · have exposed := ((there ["//".toList] [] rfl).2.2 (by decide +kernel)).mp accepted
    have hidden : mask (frontOf ["//".toList] ++ "SPY".toList) ≠
        mask (frontOf ["//".toList]) ++ "SPY".toList := by
      decide +kernel
    exact hidden exposed.unmasked
  · exact (first [] ["//".toList] rfl).2.1 nofun

end StrategyDesk.Library
