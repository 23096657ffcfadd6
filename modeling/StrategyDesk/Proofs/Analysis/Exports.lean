import StrategyDesk.Proofs.Analysis.Completion
import StrategyDesk.Proofs.Analysis.ImportedName
import StrategyDesk.Proofs.Analysis.ModuleBody
import StrategyDesk.Proofs.Script.DeclarationList
import StrategyDesk.Proofs.Script.EnumBody

/-!
# What a module exports

Of a module whose block is a list of declarations the names that can be imported are those that are
found: the names of the declarations with one keyword, the word `enum` for each `const enum`, and
the names that are declared in the rest of a declaration. The members of an enumeration are the
names in its body, if no initializer has a comma with a word behind it.
-/

set_option autoImplicit false

namespace StrategyDesk

open Script DeclarationHead

/-- Whether a masked text is a list of declarations behind blanks, none of which goes on where the
next one begins. -/
structure DeclarationBlock (masked : Text) (list : List WrittenDeclaration) : Prop where
  split : ∃ front, IsBlanks front ∧ masked = front ++ list.flatMap WrittenDeclaration.text
  wellFormed : ∀ written ∈ list, written.WellFormed
  finished : list.IsChain fun written _ => Finished written.found.tail

def exportsOf (list : List WrittenDeclaration) : List Text :=
  list.flatMap fun written => written.found.exports

theorem exportsOf_map (list : List WrittenDeclaration) :
    (list.map WrittenDeclaration.found).flatMap PlainDeclaration.exports = exportsOf list :=
  List.flatMap_map ..

theorem textOf_map (list : List WrittenDeclaration) :
    PlainDeclaration.textOf (list.map WrittenDeclaration.found) =
      list.flatMap WrittenDeclaration.text := by
  simp only [PlainDeclaration.textOf, List.flatMap_map, WrittenDeclaration.text_found]

theorem mem_exportsOf {list : List WrittenDeclaration} {plain : PlainDeclaration}
    (inside : .plain plain ∈ list) : plain.name ∈ exportsOf list :=
  List.mem_flatMap.mpr ⟨.plain plain, inside, List.mem_cons_self⟩

/-- If nothing is declared in the rest of a declaration, the exports are the names in the places of
the declarations. -/
theorem exportsOf_eq {list : List WrittenDeclaration}
    (bare : ∀ written ∈ list, namesIn written.found.tail = []) :
    exportsOf list = list.map fun written => written.found.name := by
  rw [exportsOf, List.map_eq_flatMap]
  refine List.flatMap_congr fun written inside => ?_
  rw [PlainDeclaration.exports, bare written inside]

/-- Whether a declaration is an enumeration with these members in its braces, and how they are
written. -/
structure IsEnumeration (plain : PlainDeclaration) (members : List WrittenMember) : Prop where
  keyword : plain.keyword = .enumDecl
  braced : ∃ between inner after, plain.tail = between ++ '\x7b' :: (inner ++ '\x7d' :: after) ∧
    '\x7b' ∉ between ∧ bracesOpen 0 inner = some 0 ∧ IsEnumBody members inner

/-- The names that are read as members, each with what its initializer adds. -/
def namesRead (members : List WrittenMember) : List Text :=
  members.flatMap fun member => member.name :: member.strays

theorem names_sublist (members : List WrittenMember) :
    (members.map WrittenMember.name).Sublist (namesRead members) := by
  induction members with
  | nil => exact .slnil
  | cons member members ih =>
      exact (ih.trans (List.sublist_append_right member.strays _)).cons_cons member.name

/-- The members that are read are the written ones if and only if no initializer adds one. -/
theorem namesRead_eq_iff {members : List WrittenMember} :
    namesRead members = members.map WrittenMember.name ↔
      ∀ member ∈ members, member.strays = [] := by
  induction members with
  | nil => exact iff_of_true rfl (List.forall_mem_nil _)
  | cons member members ih =>
      have reads : namesRead (member :: members) =
          member.name :: (member.strays ++ namesRead members) := rfl
      rw [reads, List.map_cons, List.cons_inj_right, List.forall_mem_cons, ← ih]
      constructor
      · intro same
        have kept := (names_sublist members).length_le
        rw [← same, List.length_append] at kept
        obtain none_added : member.strays = [] := List.length_eq_zero_iff.mp (by omega)
        rw [none_added, List.nil_append] at same
        exact ⟨none_added, same⟩
      · rintro ⟨none_added, same⟩
        rw [none_added, List.nil_append, same]

theorem IsEnumeration.ofHead_eq {plain : PlainDeclaration} {members : List WrittenMember}
    (enumeration : IsEnumeration plain members) (before rest : Text) :
    Declaration.ofHead (before ++ (plain.text ++ rest)) (plain.headAt before.length) =
      ⟨.enumDecl, plain.name, namesRead members, (plain.headAt before.length).position⟩ := by
  obtain ⟨keyword, between, inner, after, braced, unopened, level, form⟩ := enumeration
  have behind := plain.drop_text before rest
  rw [braced, List.append_assoc, List.cons_append, List.append_assoc, List.cons_append] at behind
  have read : Cursor.block? ⟨(plain.headAt before.length).name.stop,
      between ++ '\x7b' :: (inner ++ '\x7d' :: (after ++ rest))⟩ = _ :=
    Cursor.block?_append unopened _
  rw [blockBody_append level, blockBody_end, List.append_nil, ← behind] at read
  rw [namesRead, ← form.enumMembers_eq]
  simp only [PlainDeclaration.headAt, keyword] at read ⊢
  exact Declaration.ofHead_enum read

namespace DeclarationBlock

variable {masked : Text} {list : List WrittenDeclaration}

theorem listed (block : DeclarationBlock masked list) :
    PlainDeclaration.Listed (list.map WrittenDeclaration.found) where
  wellFormed plain inside := by
    obtain ⟨written, held, rfl⟩ := List.mem_map.mp inside
    exact (block.wellFormed written held).found
  finished := (List.isChain_map _).mpr block.finished

theorem heads (block : DeclarationBlock masked list) :
    ∃ front last, masked = front ++ PlainDeclaration.textOf (list.map WrittenDeclaration.found) ∧
      wordStart last = true ∧ DeclarationHead.all masked =
        headsFrom front.length last (PlainDeclaration.textOf (list.map WrittenDeclaration.found)) := by
  obtain ⟨front, blank, rfl⟩ := block.split
  rw [← textOf_map]
  by_cases empty : front = []
  · subst empty
    exact ⟨[], none, rfl, rfl, rfl⟩
  · obtain ⟨last, starts, passed⟩ := headsFrom_blanks ⟨empty, blank⟩ 0 none
      (PlainDeclaration.textOf (list.map WrittenDeclaration.found))
    rw [Nat.zero_add] at passed
    exact ⟨front, last, rfl, starts, passed⟩

theorem declaration?_isSome_iff (block : DeclarationBlock masked list) (body name : Text) :
    ((Module.ofBody body masked).declaration? name).isSome = true ↔ name ∈ exportsOf list := by
  obtain ⟨front, last, _, starts, heads⟩ := block.heads
  rw [← exportsOf_map, ← PlainDeclaration.names_textOf block.listed front.length starts, ← heads,
    Module.declaration?, List.find?_isSome, List.mem_map]
  simp only [Module.ofBody, List.mem_map, beq_iff_eq]
  constructor
  · rintro ⟨_, ⟨head, inside, rfl⟩, same⟩
    exact ⟨head, inside, same⟩
  · rintro ⟨head, inside, same⟩
    exact ⟨_, ⟨head, inside, rfl⟩, same⟩

theorem declaration?_eq {front back : List WrittenDeclaration} {plain : PlainDeclaration}
    (block : DeclarationBlock masked (front ++ .plain plain :: back))
    (first : plain.name ∉ exportsOf front) (body : Text) :
    ∃ before, masked = before ++ (plain.text ++ back.flatMap WrittenDeclaration.text) ∧
      (Module.ofBody body masked).declaration? plain.name =
        some (Declaration.ofHead masked (plain.headAt before.length)) := by
  obtain ⟨blanks, last, split, starts, heads⟩ := block.heads
  have listed := block.listed
  rw [List.map_append, List.map_cons, WrittenDeclaration.found] at split heads listed
  rw [← exportsOf_map] at first
  have found := PlainDeclaration.find?_textOf listed first blanks.length starts
  rw [← heads] at found
  refine ⟨blanks ++ PlainDeclaration.textOf (front.map WrittenDeclaration.found), ?_, ?_⟩
  · rw [split, ← textOf_map]
    simp only [PlainDeclaration.textOf, List.flatMap_append, List.flatMap_cons, List.append_assoc]
  · rw [Module.declaration?, Module.ofBody, List.find?_map, List.length_append]
    refine (congrArg _ ?_).trans (Option.map_some ..)
    exact found

/-- The members of the first enumeration of a name are those that are written in its body, each with
what its initializer adds. -/
theorem enumeration_eq {front back : List WrittenDeclaration} {plain : PlainDeclaration}
    {members : List WrittenMember}
    (block : DeclarationBlock masked (front ++ .plain plain :: back))
    (first : plain.name ∉ exportsOf front) (enumeration : IsEnumeration plain members)
    (body : Text) :
    ∃ position, (Module.ofBody body masked).declaration? plain.name =
      some ⟨.enumDecl, plain.name, namesRead members, position⟩ := by
  obtain ⟨before, rfl, declared⟩ := block.declaration?_eq first body
  rw [enumeration.ofHead_eq] at declared
  exact ⟨_, declared⟩

end DeclarationBlock

namespace Structural

variable {files : FileSystem} {path : String} {script name body masked : Text}
  {place : Placed ImportStatement} {piece : Span}

/-- An imported name whose declaration is an enumeration is bound to it. If no other import binds
the same name, the members of the enumeration are checked and completed behind it. -/
theorem imported_enumeration {module : Module} {declaration : Declaration}
    (of : Resolution.PieceOf masked place piece)
    (found : Module.find? files place.found.specifier.text = some module)
    (declared : module.declaration? (Resolution.exportedName piece).text = some declaration)
    (enumeration : declaration.isEnum = true) :
    let resolution := Resolution.ofScript files masked
    let binding : Binding := ⟨(Resolution.importedName (Text.trim piece.text)).2, module, declaration⟩
    binding ∈ resolution.bindings ∧
      ((∀ other ∈ resolution.bindings, other.name = binding.name → other = binding) →
        ImportedEnum resolution binding.name declaration.members ∧
        ∀ property, LacksMember resolution binding.name property ↔
          property ∉ declaration.members) := by
  intro resolution binding
  have comes := @Resolution.resolvePiece_eq module place.found.specifier.text piece of.filled
  rw [declared] at comes
  have held : binding ∈ resolution.bindings := of.mem_bindings found comes
  refine ⟨held, ?_⟩
  intro single
  have bound : resolution.binding? binding.name = some binding := by
    cases first : resolution.binding? binding.name with
    | none => exact absurd (beq_self_eq_true binding.name) (List.find?_eq_none.mp first binding held)
    | some other =>
        have same : (other.name == binding.name) = true :=
          List.find?_some (p := fun other : Binding => other.name == binding.name) first
        rw [single other (List.mem_of_find?_eq_some first) (beq_iff_eq.mp same)]
  refine ⟨⟨?_, binding, bound, enumeration, rfl⟩, fun property => ?_⟩
  · exact Resolution.importedName_bound of.filled (unpadded_trim piece.text).ends
  · rw [LacksMember, bound]
    simp [enumeration, binding]

/-- Of a module whose block is a list of declarations an imported name is reported by the number
2305 once where it stands, or not at all if it is among the exports. The name of each declaration
with one keyword is among them, and for each `const enum` the word `enum`. There are no others if
nothing is declared in the rest of a declaration. The first enumeration of a name has the members
that are written in its body, in order, and others only if an initializer adds some. They are
checked and completed behind the name that it is imported by. -/
theorem module_exports_exact (readable : files.read? path = some script)
    {list : List WrittenDeclaration} (block : DeclarationBlock masked list)
    (found : Module.find? files name = some (Module.ofBody body masked)) :
    let resolution := Resolution.ofScript files (mask script)
    (∀ place piece, Resolution.PieceOf (mask script) place piece →
      place.found.specifier.text = name →
      let exported := Resolution.exportedName piece
      ((service.semantic files path).filter fun finding =>
          finding.code == 2305 && finding.start == exported.start) =
        if exported.text ∈ exportsOf list then []
        else [.error exported.start exported.text.length 2305
          s!"Module '\"{String.ofList name}\"' has no exported member '{String.ofList exported.text}'."]) ∧
    (∀ plain, .plain plain ∈ list → plain.name ∈ exportsOf list) ∧
    ((∀ written ∈ list, namesIn written.found.tail = []) →
      exportsOf list = list.map fun written => written.found.name) ∧
    ∀ front plain back members, list = front ++ .plain plain :: back →
      plain.name ∉ exportsOf front → IsEnumeration plain members →
      (namesRead members = members.map WrittenMember.name ↔
        ∀ member ∈ members, member.strays = []) ∧
      ∀ place piece, Resolution.PieceOf (mask script) place piece →
        place.found.specifier.text = name → (Resolution.exportedName piece).text = plain.name →
        ∃ binding ∈ resolution.bindings,
          binding.name = (Resolution.importedName (Text.trim piece.text)).2 ∧
          binding.declaration.members = namesRead members ∧
          ((∀ other ∈ resolution.bindings, other.name = binding.name → other = binding) →
            ImportedEnum resolution binding.name (namesRead members) ∧
            ∀ property, LacksMember resolution binding.name property ↔
              property ∉ namesRead members) := by
  intro resolution
  refine ⟨?_, fun plain => mem_exportsOf, exportsOf_eq, ?_⟩
  · rintro place piece of rfl exported
    refine (missing_exports_at readable of found).trans ?_
    simp only [block.declaration?_isSome_iff]
    rfl
  · rintro front plain back members rfl first enumeration
    refine ⟨namesRead_eq_iff, ?_⟩
    rintro place piece of rfl named
    obtain ⟨position, declared⟩ := block.enumeration_eq first enumeration body
    rw [← named] at declared
    obtain ⟨held, known⟩ := imported_enumeration of found declared rfl
    exact ⟨_, held, rfl, rfl, known⟩

/-- A sandbox with a module `m` that declares two enumerations, one of them with `const`. -/
def constEnumFiles : FileSystem :=
  ((FileSystem.onSnapshot .empty).write "/m"
    "declare module \"m\" \x7bconst enum E\x7bA\x7denum F\x7bB,C=1\x7d\x7d".toList).1

def constEnumList : List WrittenDeclaration :=
  [.constEnum [] [' '] [' '] ['E'] "\x7bA\x7d".toList,
    .plain ⟨[], .enumDecl, [' '], ['F'], "\x7bB,C=1\x7d".toList⟩]

/-- Of `const enum E` the name cannot be imported, and the enumeration `F` behind it has its two
members. -/
theorem const_enum_missing :
    let script := "import \x7bE,F\x7d from \"m\";".toList
    let files := (constEnumFiles.write "/i" script).1
    let masked := constEnumList.flatMap WrittenDeclaration.text
    files.read? "/i" = some script ∧ DeclarationBlock masked constEnumList ∧
      Module.find? files ['m'] = some (Module.ofBody masked masked) ∧
      exportsOf constEnumList = ["enum".toList, ['F']] ∧
      ((service.semantic files "/i").filter fun finding =>
          finding.code == 2305 && finding.start == 8) =
        [.error 8 1 2305 "Module '\"m\"' has no exported member 'E'."] ∧
      ∃ binding ∈ (Resolution.ofScript files (mask script)).bindings,
        binding.declaration.members = [['B'], ['C']] := by
  intro script files masked
  have readable : files.read? "/i" = some script := FileSystem.read?_write_self ..
  have found : Module.find? files ['m'] = some (Module.ofBody masked masked) := by decide +kernel
  have named (c : Char) (starts : Text.isNameStart c = true) : IsName [c] :=
    ⟨⟨c, rfl, starts⟩, by simpa using Text.isNameChar_of_isNameStart starts⟩
  have block : DeclarationBlock masked constEnumList := by
    have brace : Text.isNameChar '\x7b' = false := by decide +kernel
    refine ⟨⟨[], List.forall_mem_nil _, rfl⟩, ?_, ?_⟩
    · simp only [constEnumList, List.forall_mem_cons, List.not_mem_nil, false_implies, implies_true,
        and_true]
      exact ⟨⟨.none, someBlanks_space, someBlanks_space, named 'E' rfl, stops_at rfl brace⟩,
        .none, someBlanks_space, named 'F' rfl, stops_at rfl brace⟩
    · exact .cons_cons (.of_solid rfl (by decide +kernel) (by decide)) (.singleton _)
  have places : (ImportStatement.placesIn (mask script)).map Placed.found =
      [⟨some ⟨8, "E,F".toList⟩, ⟨19, ['m']⟩⟩] := by
    decide +kernel
  obtain ⟨place, occurs, statement⟩ : ∃ place ∈ ImportStatement.placesIn (mask script),
      place.found = ⟨some ⟨8, "E,F".toList⟩, ⟨19, ['m']⟩⟩ := by
    rw [← List.mem_map, places]
    exact List.mem_singleton_self _
  have pieceOf (piece : Span) (placed : piece ∈ Resolution.placePieces 8 ("E,F".toList.splitOn ','))
      (filled : Text.trim piece.text ≠ []) : Resolution.PieceOf (mask script) place piece :=
    ⟨occurs, ⟨_, by rw [statement], placed⟩, filled⟩
  have specifier : place.found.specifier.text = ['m'] := by rw [statement]
  have enumeration : IsEnumeration ⟨[], .enumDecl, [' '], ['F'], "\x7bB,C=1\x7d".toList⟩
      [⟨[], ['B'], [], none⟩, ⟨[], ['C'], [], some ['1']⟩] := by
    refine ⟨rfl, [], "B,C=1".toList, [], rfl, List.not_mem_nil, rfl, ?_⟩
    have formed (c : Char) (identifier : Text.isIdentifierChar c = true)
        (initializer : Option Text) : WrittenMember.WellFormed ⟨[], [c], [], initializer⟩ :=
      ⟨List.forall_mem_nil _, List.forall_mem_nil _, List.cons_ne_nil c [], by simpa using identifier⟩
    exact .more (formed 'B' (by decide +kernel) none) (.last (formed 'C' (by decide +kernel) _))
  obtain ⟨reports, _, _, enumerations⟩ := module_exports_exact readable block found
  refine ⟨readable, block, found, by decide +kernel, ?_, ?_⟩
  · refine (reports place ⟨8, ['E']⟩ (pieceOf _ (by decide +kernel) (by decide +kernel))
      specifier).trans ?_
    rw [if_neg (by decide +kernel)]
    rfl
  · obtain ⟨binding, held, _, members, _⟩ := (enumerations [_] _ [] _ rfl (by decide +kernel)
      enumeration).2 place ⟨10, ['F']⟩ (pieceOf _ (by decide +kernel) (by decide +kernel)) specifier
        (by decide +kernel)
    exact ⟨binding, held, members⟩

end Structural

end StrategyDesk
