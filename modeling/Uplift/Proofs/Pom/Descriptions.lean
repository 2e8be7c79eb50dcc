import Uplift.Proofs.Pom.Passing

/-!
# Project descriptions and what they declare

A project description is a sequence of pieces: plain texts, tags and comments. Some of them make
dependencies, in which fields, lists of exclusions and other pieces stand in any order.

* `Piece`, `Item`, `Part`: what a description, a dependency and the rest are made of, and how they
  are spelled.
* `Declares`: the coordinate that the items of a dependency name.
* `dependencies_of_parts`: what is found in the text of a description is what it is made of.
-/

namespace Uplift.Pom

/-! ## Pieces -/

/-- Plain text, a tag with what stands between its brackets, or a comment with what it says. A tag
ends at the first closing bracket: one with a bracket in an attribute is a tag and a text. -/
inductive Piece where
  | text (s : List Char)
  | tag (s : List Char)
  | comment (s : List Char)

namespace Piece

/-- How a piece is written. -/
def spell : Piece → List Char
  | text s => s
  | tag s => bracketed s
  | comment s => ['<', '!', '-', '-'] ++ s ++ ['-', '-', '>']

/-- What is left of a piece without comments. -/
def bare : Piece → List Char
  | text s => s
  | tag s => bracketed s
  | comment _ => []

/-- A piece is what it says it is, and no tag of an element with one of these names. -/
def WellFormed (names : List String) : Piece → Prop
  | text s => '<' ∉ s
  | tag s => '<' ∉ s ∧ '>' ∉ s ∧ ¬ ['!', '-', '-'] <+: s ∧
      ∀ name ∈ names, s ≠ name.toList ∧ s ≠ '/' :: name.toList
  | comment s => ¬ ['-', '-', '>'] <:+: s

instance (names : List String) : (p : Piece) → Decidable (p.WellFormed names)
  | text _ => inferInstanceAs (Decidable (_ ∉ _))
  | tag _ => inferInstanceAs (Decidable (_ ∧ _))
  | comment _ => inferInstanceAs (Decidable (¬ _))

variable {names names' : List String} {p : Piece} {name : String}

theorem WellFormed.mono (wellFormed : p.WellFormed names) (fewer : names' ⊆ names) :
    p.WellFormed names' := by
  cases p with
  | text | comment => exact wellFormed
  | tag s =>
    obtain ⟨plain, closed, remark, others⟩ := wellFormed
    exact ⟨plain, closed, remark, fun name member => others name (fewer member)⟩

/-- Comments are dropped, and everything else is kept. -/
theorem WellFormed.adds_comment (wellFormed : p.WellFormed names) :
    Adds (without Pom.comment) p.spell p.bare := by
  cases p with
  | text s => exact (passesPlain_without Pom.comment).adds_self wellFormed
  | tag s =>
    obtain ⟨plain, closed, remark, -⟩ := wellFormed
    exact (adds_of_unopened plain (strip?_none (by decide) remark)).1
  | comment s => exact (adds_of_stretch (stretch?_comment wellFormed)).1

/-- An element does not begin with a piece that is no tag of it. -/
theorem WellFormed.adds_element (wellFormed : p.WellFormed names) (member : name ∈ names)
    (closed : '>' ∉ name.toList) :
    Adds (without (element name)) p.bare p.bare ∧ Adds (insides (element name)) p.bare [] := by
  cases p with
  | text s =>
    exact ⟨(passesPlain_without _).adds_self wellFormed,
      (passesPlain_insides _).adds_nil wellFormed⟩
  | tag s =>
    obtain ⟨plain, closed', -, others⟩ := wellFormed
    exact adds_of_unopened plain (strip?_bracket closed' closed (others name member).1)
  | comment s => exact ⟨.nil, .nil⟩

theorem WellFormed.skips (wellFormed : p.WellFormed names) (member : name ∈ names)
    (closed : '>' ∉ name.toList) : Skips (bracketed ('/' :: name.toList)) p.bare := by
  cases p with
  | text s => exact .plain wellFormed
  | tag s =>
    obtain ⟨plain, closed', -, others⟩ := wellFormed
    exact .bracketed plain closed' (by simpa using closed) (others name member).2
  | comment s => exact .nil

end Piece

/-- How pieces are written one after the other. -/
def spelled (ps : List Piece) : List Char := ps.flatMap Piece.spell

/-- What is left of pieces without comments. -/
def bared (ps : List Piece) : List Char := ps.flatMap Piece.bare

/-- An element: its two tags, and other pieces between them. -/
def enclosed (name : String) (inner : List Piece) : List Piece :=
  .tag name.toList :: inner ++ [.tag ('/' :: name.toList)]

variable {ps : List Piece} {names : List String} {name : String}

theorem forall_mem_enclosed {P : Piece → Prop} : (∀ p ∈ enclosed name ps, P p) ↔
    P (.tag name.toList) ∧ P (.tag ('/' :: name.toList)) ∧ ∀ p ∈ ps, P p := by
  rw [enclosed, List.cons_append, List.forall_mem_cons, List.forall_mem_append,
    List.forall_mem_singleton]
  exact and_congr_right fun _ => And.comm

theorem bared_enclosed : bared (enclosed name ps) =
    bracketed name.toList ++ bared ps ++ bracketed ('/' :: name.toList) := by
  simp [bared, enclosed, Piece.bare]

theorem without_comment (wellFormed : ∀ p ∈ ps, p.WellFormed names) :
    without comment (spelled ps) = bared ps :=
  (Adds.flatMap fun p member => (wellFormed p member).adds_comment).eq (passesPlain_without _).nil

/-- Pieces without the tags of an element say nothing about it. -/
theorem adds_bared (wellFormed : ∀ p ∈ ps, p.WellFormed names) (member : name ∈ names)
    (closed : '>' ∉ name.toList) :
    Adds (without (element name)) (bared ps) (bared ps) ∧
      Adds (insides (element name)) (bared ps) [] := by
  have each := fun p there => (wellFormed p there).adds_element member closed
  refine ⟨.flatMap fun p there => (each p there).1, ?_⟩
  have passed := Adds.flatMap fun p there => (each p there).2
  rwa [List.flatMap_eq_nil_iff.mpr fun _ _ => rfl] at passed

/-- Between the tags of an element they make the element. -/
theorem adds_enclosed (wellFormed : ∀ p ∈ ps, p.WellFormed names) (member : name ∈ names)
    (closed : '>' ∉ name.toList) :
    Adds (without (element name)) (bared (enclosed name ps)) [] ∧
      Adds (insides (element name)) (bared (enclosed name ps)) [bared ps] := by
  have skips : Skips (bracketed ('/' :: name.toList)) (bared ps) :=
    .flatMap fun p there => (wellFormed p there).skips member closed
  rw [bared_enclosed]
  exact adds_of_stretch (stretch?_element skips)

/-! ## Dependencies -/

/-- The names of the elements that make a dependency. -/
def reserved : List String := ["dependency", "exclusions", "groupId", "artifactId", "version"]

/-- What stands in a dependency: a field with its value, a list of exclusions with whatever it says,
or a piece that means nothing. -/
inductive Item where
  | piece (p : Piece)
  | field (f : Field) (value : List Char)
  | exclusions (inner : List Piece)

namespace Item

/-- The tag and the text of an item, one after the other. -/
def pieces : Item → List Piece
  | piece p => [p]
  | field f value => enclosed f.tag [.text value]
  | exclusions inner => enclosed "exclusions" inner

/-- A piece between the fields has none of the reserved tags, a value is plain, and a list of
exclusions may have any tags but its own and those of a dependency. -/
def WellFormed : Item → Prop
  | piece p => p.WellFormed reserved
  | field _ value => '<' ∉ value
  | exclusions inner => ∀ p ∈ inner, p.WellFormed ["dependency", "exclusions"]

instance : (i : Item) → Decidable i.WellFormed
  | piece p => inferInstanceAs (Decidable (p.WellFormed reserved))
  | field _ _ => inferInstanceAs (Decidable (_ ∉ _))
  | exclusions inner =>
    inferInstanceAs (Decidable (∀ p ∈ inner, p.WellFormed ["dependency", "exclusions"]))

/-- The field of an item, its value without the blanks around it. -/
def fields : Item → List (Field × List Char)
  | field f value => [(f, Text.trim value)]
  | _ => []

/-- What is left of an item without comments and exclusions. -/
def kept : Item → List Char
  | exclusions _ => []
  | i => bared i.pieces

variable {i : Item}

theorem field_wellFormed (f : Field) {value : List Char} (plain : '<' ∉ value) :
    ∀ p ∈ (field f value).pieces, p.WellFormed ["dependency", "exclusions"] := by
  have tags : (Piece.tag f.tag.toList).WellFormed ["dependency", "exclusions"] ∧
      (Piece.tag ('/' :: f.tag.toList)).WellFormed ["dependency", "exclusions"] := by
    cases f <;> decide
  have text : (Piece.text value).WellFormed ["dependency", "exclusions"] := plain
  exact forall_mem_enclosed.mpr ⟨tags.1, tags.2, List.forall_mem_singleton.mpr text⟩

theorem pieces_wellFormed (wellFormed : i.WellFormed) :
    ∀ p ∈ i.pieces, p.WellFormed ["dependency"] := by
  cases i with
  | piece p => exact List.forall_mem_singleton.mpr (Piece.WellFormed.mono wellFormed (by decide))
  | field f value =>
    exact fun p member => (field_wellFormed f wellFormed p member).mono (by decide)
  | exclusions inner =>
    exact forall_mem_enclosed.mpr ⟨by decide, by decide,
      fun p member => (wellFormed p member).mono (by decide)⟩

/-- Exclusions are dropped, and everything else is kept. -/
theorem adds_exclusions (wellFormed : i.WellFormed) :
    Adds (without (element "exclusions")) (bared i.pieces) i.kept := by
  cases i with
  | piece p =>
    have own : ∀ q ∈ (piece p).pieces, q.WellFormed reserved :=
      List.forall_mem_singleton.mpr wellFormed
    exact (adds_bared own (by decide) (by decide)).1
  | field f value =>
    exact (adds_bared (field_wellFormed f wellFormed) (by decide) (by decide)).1
  | exclusions inner => exact (adds_enclosed wellFormed (by decide) (by decide)).1

/-- What is left has the field of the item. -/
theorem adds_fields (wellFormed : i.WellFormed) : Adds Pom.fields i.kept i.fields := by
  cases i with
  | piece p =>
    cases p with
    | text s =>
      have adds := passesPlain_fields.adds_nil (s := s) wellFormed
      simpa [kept, pieces, bared, Piece.bare, fields] using adds
    | tag s =>
      obtain ⟨plain, closed, -, others⟩ := wellFormed
      have other : ∀ f : Field, s ≠ f.tag.toList := fun f =>
        (others f.tag (by cases f <;> decide)).1
      simpa [kept, pieces, bared, Piece.bare, fields] using adds_fields_of_other plain closed other
    | comment s => exact .nil
  | field f value =>
    have whole : bared (enclosed f.tag [.text value]) =
        bracketed f.tag.toList ++ value ++ bracketed ('/' :: f.tag.toList) := by
      rw [bared_enclosed]
      simp [bared, Piece.bare]
    show Adds Pom.fields (bared (enclosed f.tag [.text value])) _
    rw [whole]
    exact adds_fields_of_field f wellFormed
  | exclusions inner => exact .nil

end Item

/-- The values of a field. -/
def valuesOf (f : Field) (fs : List (Field × List Char)) : List String :=
  fs.filterMap fun (g, value) => if g = f then some (String.ofList value) else none

/-- The items of a dependency have one group, one artifact, and a version if the coordinate has
one. -/
structure Declares (items : List Item) (c : Coordinate) : Prop where
  group : valuesOf .group (items.flatMap Item.fields) = [c.group]
  artifact : valuesOf .artifact (items.flatMap Item.fields) = [c.artifact]
  version : valuesOf .version (items.flatMap Item.fields) = c.version.toList

instance (items : List Item) (c : Coordinate) : Decidable (Declares items c) :=
  decidable_of_iff
    (valuesOf .group (items.flatMap Item.fields) = [c.group] ∧
      valuesOf .artifact (items.flatMap Item.fields) = [c.artifact] ∧
      valuesOf .version (items.flatMap Item.fields) = c.version.toList)
    ⟨fun ⟨g, a, v⟩ => ⟨g, a, v⟩, fun ⟨g, a, v⟩ => ⟨g, a, v⟩⟩

/-- The last value of each field counts. -/
theorem foldl_set (fs : List (Field × List Char)) (c : Coordinate) :
    fs.foldl (fun c (f, value) => f.set c (String.ofList value)) c =
      ⟨(valuesOf .group fs).getLast?.getD c.group, (valuesOf .artifact fs).getLast?.getD c.artifact,
        (valuesOf .version fs).getLast?.or c.version⟩ := by
  induction fs generalizing c with
  | nil => rfl
  | cons entry fs ih =>
    obtain ⟨f, value⟩ := entry
    rw [List.foldl_cons, ih]
    cases f <;> simp [valuesOf, Field.set, List.getLast?_cons]

variable {items : List Item} {c : Coordinate}

/-- The body of a dependency names the coordinate that its items declare. -/
theorem coordinate_of_items (wellFormed : ∀ i ∈ items, i.WellFormed) (declares : Declares items c) :
    coordinate (bared (items.flatMap Item.pieces)) = c := by
  have spelled : bared (items.flatMap Item.pieces) = items.flatMap fun i => bared i.pieces :=
    List.flatMap_assoc ..
  have kept : without (element "exclusions") (bared (items.flatMap Item.pieces)) =
      items.flatMap Item.kept := by
    rw [spelled]
    exact (Adds.flatMap fun i member => Item.adds_exclusions (wellFormed i member)).eq
      (passesPlain_without _).nil
  have found : fields (items.flatMap Item.kept) = items.flatMap Item.fields :=
    (Adds.flatMap fun i member => Item.adds_fields (wellFormed i member)).eq passesPlain_fields.nil
  rw [coordinate, kept, found, foldl_set, declares.group, declares.artifact, declares.version]
  cases c with
  | mk group artifact version => cases version <;> rfl

/-! ## Descriptions -/

/-- A part of a project description: a dependency on a coordinate, or a piece that means nothing. -/
inductive Part where
  | piece (p : Piece)
  | dependency (c : Coordinate) (items : List Item)

namespace Part

/-- The tags and texts of a part, one after the other. -/
def pieces : Part → List Piece
  | piece p => [p]
  | dependency _ items => enclosed "dependency" (items.flatMap Item.pieces)

/-- Outside of dependencies, any tags but theirs may stand; a dependency declares its coordinate. -/
def WellFormed : Part → Prop
  | piece p => p.WellFormed ["dependency"]
  | dependency c items => (∀ i ∈ items, i.WellFormed) ∧ Declares items c

instance : (part : Part) → Decidable part.WellFormed
  | piece p => inferInstanceAs (Decidable (p.WellFormed ["dependency"]))
  | dependency c items =>
    inferInstanceAs (Decidable ((∀ i ∈ items, i.WellFormed) ∧ Declares items c))

/-- The coordinate of a part that is a dependency. -/
def coordinate? : Part → Option Coordinate
  | piece _ => none
  | dependency c _ => some c

/-- The bodies of the dependencies in a part. -/
def bodies : Part → List (List Char)
  | piece _ => []
  | dependency _ items => [bared (items.flatMap Item.pieces)]

variable {part : Part}

theorem body_wellFormed {items : List Item} (wellFormed : ∀ i ∈ items, i.WellFormed) :
    ∀ p ∈ items.flatMap Item.pieces, p.WellFormed ["dependency"] := by
  intro p member
  obtain ⟨i, there, own⟩ := List.mem_flatMap.mp member
  exact Item.pieces_wellFormed (wellFormed i there) p own

theorem pieces_wellFormed (wellFormed : part.WellFormed) : ∀ p ∈ part.pieces, p.WellFormed [] := by
  cases part with
  | piece p =>
    exact List.forall_mem_singleton.mpr (Piece.WellFormed.mono wellFormed (List.nil_subset _))
  | dependency c items =>
    exact forall_mem_enclosed.mpr ⟨by decide, by decide,
      fun p member => (body_wellFormed wellFormed.1 p member).mono (List.nil_subset _)⟩

theorem adds_bodies (wellFormed : part.WellFormed) :
    Adds (insides (element "dependency")) (bared part.pieces) part.bodies := by
  cases part with
  | piece p =>
    have own : ∀ q ∈ (piece p).pieces, q.WellFormed ["dependency"] :=
      List.forall_mem_singleton.mpr wellFormed
    exact (adds_bared own (by decide) (by decide)).2
  | dependency c items =>
    exact (adds_enclosed (body_wellFormed wellFormed.1) (by decide) (by decide)).2

theorem map_coordinate_bodies (wellFormed : part.WellFormed) :
    part.bodies.map coordinate = part.coordinate?.toList := by
  cases part with
  | piece p => rfl
  | dependency c items =>
    simp [bodies, coordinate?, coordinate_of_items wellFormed.1 wellFormed.2]

end Part

/-- The text of a project description. -/
def textOf (parts : List Part) : String := String.ofList (spelled (parts.flatMap Part.pieces))

/-- The bodies that are found are the bodies of the dependencies that are there. -/
theorem insides_of_parts {parts : List Part} (wellFormed : ∀ part ∈ parts, part.WellFormed) :
    insides (element "dependency") (without comment (textOf parts).toList) =
      parts.flatMap Part.bodies := by
  have pieces : ∀ p ∈ parts.flatMap Part.pieces, p.WellFormed [] := fun p member => by
    obtain ⟨part, there, own⟩ := List.mem_flatMap.mp member
    exact Part.pieces_wellFormed (wellFormed part there) p own
  have spelled : bared (parts.flatMap Part.pieces) = parts.flatMap fun part => bared part.pieces :=
    List.flatMap_assoc ..
  rw [textOf, String.toList_ofList, without_comment pieces, spelled]
  exact (Adds.flatMap fun part member => Part.adds_bodies (wellFormed part member)).eq
    (passesPlain_insides _).nil

theorem named_of_mem_dependencies {c : Coordinate} {text : String} (found : c ∈ dependencies text) :
    c.group ≠ "" ∧ c.artifact ≠ "" := by
  obtain ⟨-, filled⟩ := List.mem_filter.mp found
  simpa [String.isEmpty_iff] using filled

/-- A declared dependency has a name. -/
theorem isEmpty_of_mem_dependencies {c : Coordinate} {text : String}
    (declared : c ∈ dependencies text) : c.isEmpty = false := by
  simp [Coordinate.isEmpty, (named_of_mem_dependencies declared).1]

/-- **The dependencies of a description are the ones that it is made of.** For every sequence of
parts, with any comments, tags and texts between and in the dependencies, the dependencies of its
text are the coordinates that its dependencies declare, in order, save those whose group or artifact
is blank. Whatever a comment or a list of exclusions says does not count. And no text at all has a
dependency without group or artifact. -/
theorem dependencies_of_parts :
    (∀ parts : List Part, (∀ part ∈ parts, part.WellFormed) →
      dependencies (textOf parts) =
        (parts.filterMap Part.coordinate?).filter fun c => c.group ≠ "" ∧ c.artifact ≠ "") ∧
    ∀ text, ∀ c ∈ dependencies text, c.group ≠ "" ∧ c.artifact ≠ "" := by
  refine ⟨fun parts wellFormed => ?_, fun text c found => named_of_mem_dependencies found⟩
  have coordinates : (parts.flatMap Part.bodies).map coordinate =
      parts.filterMap Part.coordinate? := by
    rw [List.map_flatMap, List.filterMap_eq_flatMap_toList]
    exact List.flatMap_congr fun part member =>
      Part.map_coordinate_bodies (wellFormed part member)
  rw [dependencies, insides_of_parts wellFormed, coordinates]
  refine List.filter_congr fun c _ => Bool.eq_iff_iff.mpr ?_
  simp

/-- A dependency in a comment, one with a comment and exclusions in it, and one without a group. -/
def sampleParts : List Part :=
  [.piece (.tag "project".toList),
    .piece (.comment "<dependency><groupId>old</groupId></dependency>".toList),
    .dependency ⟨"org.a", "a", some "1"⟩
      [.field .artifact " a ".toList, .piece (.comment "</dependency>".toList),
        .exclusions [.tag "exclusion".toList, .tag "groupId".toList, .text "org.x".toList,
          .tag "/groupId".toList, .tag "/exclusion".toList],
        .field .version "1".toList, .piece (.tag "scope/".toList), .field .group "org.a".toList],
    .dependency ⟨"", "b", none⟩ [.field .group " ".toList, .field .artifact "b".toList],
    .piece (.tag "/project".toList)]

example : spelled (Part.dependency ⟨"", "b", none⟩
      [.field .group " ".toList, .field .artifact "b".toList]).pieces =
    "<dependency><groupId> </groupId>".toList ++
      "<artifactId>b</artifactId></dependency>".toList := by decide +kernel

theorem dependencies_of_parts_sample : (∀ part ∈ sampleParts, part.WellFormed) ∧
    dependencies (textOf sampleParts) = [⟨"org.a", "a", some "1"⟩] := by
  have wellFormed : ∀ part ∈ sampleParts, part.WellFormed := by decide +kernel
  refine ⟨wellFormed, (dependencies_of_parts.1 sampleParts wellFormed).trans ?_⟩
  decide +kernel

end Uplift.Pom
