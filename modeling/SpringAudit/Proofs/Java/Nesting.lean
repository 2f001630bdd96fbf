import Mathlib.Data.List.Nodup
import SpringAudit.Java.Syntax

/-!
# Types inside types

A type declaration is found by going from body to body.  `NestedType.In` lists the steps: the
place of a type is the list of its indices in the bodies on the way, and its names are those of
the types on the way and its own.  `nestedAmong` finds all types; they come in the order of
their places, each before the types inside it (`pairwise_nestedAmong`).

If types in one body always have different names, the names on the way determine the place
(`NestedType.In.eq_of_names_eq`).
-/

namespace SpringAudit.Java

/-- A type declaration with the way that leads to it. -/
structure NestedType where
  /-- The index in the outermost list, then in the body of each type on the way. -/
  place : List Nat
  /-- The names of the types on the way, the outermost first, and its own name. -/
  names : List Text
  kind : TypeKind
  annotations : List AnnotationSyntax
  members : List Declaration

namespace NestedType

/-- The type as it is found from outside a type that stands at an index. -/
def inside (i : Nat) (name : Text) (t : NestedType) : NestedType :=
  { t with place := i :: t.place, names := name :: t.names }

/-- Whether a type is found among declarations or, at any depth, in the body of one of them. -/
inductive In : List Declaration → NestedType → Prop where
  | here {declarations : List Declaration} {i : Nat} {kind : TypeKind} {name : Text}
      {annotations : List AnnotationSyntax} {members : List Declaration}
      (hAt : declarations[i]? = some (.type kind name annotations members)) :
      In declarations ⟨[i], [name], kind, annotations, members⟩
  | inside {declarations : List Declaration} {i : Nat} {kind : TypeKind} {name : Text}
      {annotations : List AnnotationSyntax} {members : List Declaration} {t : NestedType}
      (hAt : declarations[i]? = some (.type kind name annotations members))
      (hIn : In members t) : In declarations (t.inside i name)

end NestedType

/-! ## All types in order -/

mutual

/-- The types in a declaration at an index, the declaration itself first. -/
def nestedTypes (i : Nat) : Declaration → List NestedType
  | .type kind name annotations members =>
    ⟨[i], [name], kind, annotations, members⟩ ::
      (nestedAmong 0 members).map (NestedType.inside i name)
  | .method _ => []
  | .other => []

/-- The types in several declarations, the first of which stands at an index. -/
def nestedAmong (i : Nat) : List Declaration → List NestedType
  | [] => []
  | declaration :: rest => nestedTypes i declaration ++ nestedAmong (i + 1) rest

end

section Places

variable {declarations : List Declaration} {t : NestedType} {i : Nat}

theorem mem_nestedAmong_iff :
    t ∈ nestedAmong i declarations ↔ ∃ j declaration, declarations[j]? = some declaration ∧
      t ∈ nestedTypes (i + j) declaration := by
  induction declarations generalizing i with
  | nil => simp [nestedAmong]
  | cons first rest ih =>
      rw [nestedAmong, List.mem_append, ih]
      constructor
      · rintro (hFirst | ⟨j, declaration, hAt, hMem⟩)
        · exact ⟨0, first, rfl, hFirst⟩
        · exact ⟨j + 1, declaration, hAt, by rwa [Nat.add_assoc, Nat.add_comm 1] at hMem⟩
      · rintro ⟨j, declaration, hAt, hMem⟩
        cases j with
        | zero =>
            obtain rfl := Option.some.inj hAt
            exact .inl hMem
        | succ j =>
            exact .inr ⟨j, declaration, hAt, by rwa [Nat.add_assoc, Nat.add_comm 1]⟩

/-- What is found by going from body to body is among all types. -/
theorem NestedType.In.mem_nestedAmong (h : t.In declarations) :
    t ∈ nestedAmong 0 declarations := by
  induction h with
  | @here declarations i kind name annotations members hAt =>
      refine mem_nestedAmong_iff.2 ⟨i, _, hAt, ?_⟩
      rw [Nat.zero_add, nestedTypes]
      exact List.mem_cons_self
  | @inside declarations i kind name annotations members t hAt hIn ih =>
      refine mem_nestedAmong_iff.2 ⟨i, _, hAt, ?_⟩
      rw [Nat.zero_add, nestedTypes]
      exact List.mem_cons_of_mem _ (List.mem_map_of_mem ih)

mutual

theorem NestedType.in_of_mem_nestedTypes :
    (declaration : Declaration) → ∀ {i t all}, t ∈ nestedTypes i declaration →
      all[i]? = some declaration → NestedType.In all t
  | .type kind name annotations members, i, t, all => fun hMem hAt => by
      rw [nestedTypes, List.mem_cons, List.mem_map] at hMem
      rcases hMem with rfl | ⟨u, hInside, rfl⟩
      · exact .here hAt
      · exact .inside hAt (NestedType.in_of_mem_nestedAmong members hInside rfl)
  | .method _, _, _, _ => fun hMem => by
      rw [nestedTypes] at hMem
      cases hMem
  | .other, _, _, _ => fun hMem => by
      rw [nestedTypes] at hMem
      cases hMem

theorem NestedType.in_of_mem_nestedAmong :
    (declarations : List Declaration) → ∀ {i t all}, t ∈ nestedAmong i declarations →
      all.drop i = declarations → NestedType.In all t
  | [], _, _, _ => fun hMem => by
      rw [nestedAmong] at hMem
      cases hMem
  | declaration :: rest, i, t, all => fun hMem hDrop => by
      rw [nestedAmong, List.mem_append] at hMem
      rcases hMem with hFirst | hRest
      · refine NestedType.in_of_mem_nestedTypes declaration hFirst ?_
        rw [← Nat.add_zero i, ← List.getElem?_drop, hDrop]
        rfl
      · refine NestedType.in_of_mem_nestedAmong rest hRest ?_
        rw [← List.drop_drop, hDrop]
        rfl

end

/-- All types that are found by going from body to body are listed, and nothing else is. -/
theorem mem_nestedAmong : t ∈ nestedAmong 0 declarations ↔ t.In declarations :=
  ⟨fun h => NestedType.in_of_mem_nestedAmong declarations h rfl, fun h => h.mem_nestedAmong⟩

/-! ### Their order -/

/-- The order of reading: the first index that differs decides, and a type comes before those
inside it. -/
def NestedType.Before (s t : NestedType) : Prop :=
  List.Lex (· < ·) s.place t.place

theorem NestedType.not_before_self (t : NestedType) : ¬ t.Before t :=
  List.lex_irrefl Nat.lt_irrefl t.place

theorem exists_place_of_mem_nestedTypes {declaration : Declaration}
    (h : t ∈ nestedTypes i declaration) : ∃ more, t.place = i :: more := by
  cases declaration with
  | type kind name annotations members =>
      rw [nestedTypes, List.mem_cons, List.mem_map] at h
      rcases h with rfl | ⟨u, -, rfl⟩
      · exact ⟨[], rfl⟩
      · exact ⟨u.place, rfl⟩
  | method declaration =>
      rw [nestedTypes] at h
      cases h
  | other =>
      rw [nestedTypes] at h
      cases h

theorem exists_place_of_mem_nestedAmong (h : t ∈ nestedAmong i declarations) :
    ∃ j more, i ≤ j ∧ t.place = j :: more := by
  obtain ⟨j, declaration, -, hMem⟩ := mem_nestedAmong_iff.1 h
  obtain ⟨more, hPlace⟩ := exists_place_of_mem_nestedTypes hMem
  exact ⟨i + j, more, Nat.le_add_right i j, hPlace⟩

mutual

theorem pairwise_nestedTypes :
    (i : Nat) → (declaration : Declaration) → (nestedTypes i declaration).Pairwise NestedType.Before
  | i, .type kind name annotations members => by
      rw [nestedTypes, List.pairwise_cons, List.pairwise_map]
      constructor
      · intro t hMem
        obtain ⟨u, hInside, rfl⟩ := List.mem_map.1 hMem
        obtain ⟨j, more, -, hPlace⟩ := exists_place_of_mem_nestedAmong hInside
        show List.Lex (· < ·) [i] (i :: u.place)
        rw [hPlace]
        exact .cons .nil
      · exact (pairwise_nestedAmong 0 members).imp fun h => .cons h
  | _, .method _ => by
      rw [nestedTypes]
      exact .nil
  | _, .other => by
      rw [nestedTypes]
      exact .nil

/-- All types are listed in the order of reading. -/
theorem pairwise_nestedAmong :
    (i : Nat) → (declarations : List Declaration) →
      (nestedAmong i declarations).Pairwise NestedType.Before
  | _, [] => by
      rw [nestedAmong]
      exact .nil
  | i, declaration :: rest => by
      rw [nestedAmong, List.pairwise_append]
      refine ⟨pairwise_nestedTypes i declaration, pairwise_nestedAmong (i + 1) rest, ?_⟩
      intro s hFirst t hRest
      obtain ⟨more, hPlace⟩ := exists_place_of_mem_nestedTypes hFirst
      obtain ⟨j, more', hLater, hPlace'⟩ := exists_place_of_mem_nestedAmong hRest
      rw [NestedType.Before, hPlace, hPlace']
      exact .rel hLater

end

end Places

/-! ## Names -/

/-- The names of the types among declarations. -/
def typeNames (declarations : List Declaration) : List Text :=
  declarations.filterMap fun
    | .type _ name _ _ => some name
    | _ => none

/-- Whether the types in one body always have different names. -/
def DistinctSiblings (declarations : List Declaration) : Prop :=
  (typeNames declarations).Nodup ∧
    ∀ t : NestedType, t.In declarations → (typeNames t.members).Nodup

instance (declarations : List Declaration) : Decidable (DistinctSiblings declarations) :=
  decidable_of_iff ((typeNames declarations).Nodup ∧
      ∀ t ∈ nestedAmong 0 declarations, (typeNames t.members).Nodup) <| by
    simp only [mem_nestedAmong, DistinctSiblings]

section Names

variable {declarations : List Declaration} {i j : Nat} {kind kind' : TypeKind} {name : Text}
  {annotations annotations' : List AnnotationSyntax} {members members' : List Declaration}
  {s t : NestedType}

theorem index_eq_of_nodup (hNodup : (typeNames declarations).Nodup)
    (hi : declarations[i]? = some (.type kind name annotations members))
    (hj : declarations[j]? = some (.type kind' name annotations' members')) : i = j := by
  rw [List.Nodup, typeNames, List.pairwise_filterMap, List.pairwise_iff_getElem] at hNodup
  obtain ⟨hi, hi'⟩ := List.getElem?_eq_some_iff.1 hi
  obtain ⟨hj, hj'⟩ := List.getElem?_eq_some_iff.1 hj
  rcases Nat.lt_trichotomy i j with hLess | hSame | hMore
  · exact absurd rfl (hNodup i j hi hj hLess name (by rw [hi']) name (by rw [hj']))
  · exact hSame
  · exact absurd rfl (hNodup j i hj hi hMore name (by rw [hj']) name (by rw [hi']))

theorem NestedType.In.names_ne_nil (h : t.In declarations) : t.names ≠ [] := by
  cases h with
  | here hAt => exact List.cons_ne_nil _ _
  | inside hAt hIn => exact List.cons_ne_nil _ _

theorem DistinctSiblings.within (h : DistinctSiblings declarations)
    (hAt : declarations[i]? = some (.type kind name annotations members)) :
    DistinctSiblings members :=
  ⟨h.2 _ (.here hAt), fun t hIn => h.2 (t.inside i name) (.inside hAt hIn)⟩

/-- If siblings have different names, no two types have the same names on the way. -/
theorem NestedType.In.eq_of_names_eq (hs : s.In declarations) (ht : t.In declarations)
    (hDistinct : DistinctSiblings declarations) (hNames : s.names = t.names) : s = t := by
  -- Along the way of `s`: the first name decides the index, and the rest is the same inside.
  induction hs generalizing t with
  | here hAt =>
      cases ht with
      | here hAt' =>
          obtain rfl := List.head_eq_of_cons_eq hNames
          obtain rfl := index_eq_of_nodup hDistinct.1 hAt hAt'
          obtain ⟨rfl, -, rfl, rfl⟩ := Declaration.type.inj (Option.some.inj (hAt.symm.trans hAt'))
          rfl
      | inside hAt' hIn => exact absurd (List.tail_eq_of_cons_eq hNames).symm hIn.names_ne_nil
  | inside hAt hIn ih =>
      cases ht with
      | here hAt' => exact absurd (List.tail_eq_of_cons_eq hNames) hIn.names_ne_nil
      | inside hAt' hIn' =>
          obtain rfl := List.head_eq_of_cons_eq hNames
          obtain rfl := index_eq_of_nodup hDistinct.1 hAt hAt'
          obtain ⟨-, -, -, rfl⟩ := Declaration.type.inj (Option.some.inj (hAt.symm.trans hAt'))
          rw [ih hIn' (hDistinct.within hAt) (List.tail_eq_of_cons_eq hNames)]

end Names

/-! ### Names with a property -/

mutual

/-- Whether a declaration, if it is a type, and all types in it have names with a property. -/
def Declaration.Named (P : Text → Prop) : Declaration → Prop
  | .type _ name _ members => P name ∧ AllNamed P members
  | .method _ => True
  | .other => True

/-- Whether all types in several declarations have names with a property. -/
def AllNamed (P : Text → Prop) : List Declaration → Prop
  | [] => True
  | declaration :: rest => declaration.Named P ∧ AllNamed P rest

end

variable {P : Text → Prop} {declarations : List Declaration}

theorem allNamed_iff :
    AllNamed P declarations ↔ ∀ declaration ∈ declarations, declaration.Named P := by
  induction declarations with
  | nil => simp [AllNamed]
  | cons declaration rest ih => rw [AllNamed, ih, List.forall_mem_cons]

theorem AllNamed.names {t : NestedType} (h : AllNamed P declarations) (hIn : t.In declarations) :
    ∀ name ∈ t.names, P name := by
  induction hIn with
  | here hAt =>
      have hType := allNamed_iff.1 h _ (List.mem_of_getElem? hAt)
      rw [Declaration.Named] at hType
      intro name hName
      rw [List.mem_singleton.1 hName]
      exact hType.1
  | inside hAt hIn ih =>
      have hType := allNamed_iff.1 h _ (List.mem_of_getElem? hAt)
      rw [Declaration.Named] at hType
      intro name hName
      rcases List.mem_cons.1 hName with rfl | hInside
      · exact hType.1
      · exact ih hType.2 name hInside

end SpringAudit.Java
