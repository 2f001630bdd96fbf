import SpringAudit.Proofs.Java.Parser.Names
import SpringAudit.Proofs.Source.Conversion

/-!
# The list of classes

The classes of a source file are the class declarations that are found by going from body to
body, in the order of reading.  Each is named after the package and the types around it, has
the methods of its own body, and its annotations and methods know where they belong
(`AnnotatedClass.IsOf`).

The main theorem, `classes_account`, says so for every tree whose names are not empty and hold
no dots; in a source file that is parsed they never do.  There is a list exactly if all literals
that it needs can be decoded.
-/

namespace SpringAudit

open Java

/-! ## What the model makes of a declaration -/

/-- Whether the annotations of a declaration with a path are those that are written, in order. -/
def AnnotatedAt (imports : ImportTable) (path : Text) (written : List AnnotationSyntax)
    (uses : List AnnotationUse) : Prop :=
  List.Forall₂ (fun a use => AnnotationUse.ofSyntax imports path a = .ok use ∧ use.owner = path)
    written uses

/-- Whether a method of the model is one that is written in the body of a class. -/
structure AnnotatedMethod.IsOf (imports : ImportTable) (declaringClass : Text) (m : MethodSyntax)
    (method : AnnotatedMethod) : Prop where
  name : method.name = m.name
  signature : method.signature = signatureText m.name m.parameters
  declaringClass : method.declaringClass = declaringClass
  annotations : AnnotatedAt imports method.path m.annotations method.annotations

/-- Whether a class of the model is one that is found inside of what has the outer names. -/
structure AnnotatedClass.IsOf (imports : ImportTable) (filePath : Text) (outer : List Text)
    (t : NestedType) (c : AnnotatedClass) : Prop where
  qualifiedName : c.qualifiedName = Text.join "." (outer ++ t.names)
  filePath : c.filePath = filePath
  annotations : AnnotatedAt imports c.path t.annotations c.annotations
  methods : List.Forall₂ (AnnotatedMethod.IsOf imports c.qualifiedName) (methodsAmong t.members)
    c.methods

section Conversion

variable {imports : ImportTable} {filePath path : Text}

theorem annotatedAt_of_mapM {written : List AnnotationSyntax} {uses : List AnnotationUse}
    (h : written.mapM (AnnotationUse.ofSyntax imports path) = .ok uses) :
    AnnotatedAt imports path written uses := by
  refine (mapM_eq_ok_iff.1 h).imp fun a use hUse => ⟨hUse, ?_⟩
  obtain ⟨arguments, -, hResult⟩ := bind_eq_ok_iff.1 hUse
  obtain rfl := Except.ok.inj hResult
  rfl

theorem AnnotatedMethod.isOf_ofSyntax {declaringClass : Text} {m : MethodSyntax}
    {method : AnnotatedMethod}
    (h : AnnotatedMethod.ofSyntax imports declaringClass m = .ok method) :
    method.IsOf imports declaringClass m := by
  obtain ⟨annotations, hAnnotations, hResult⟩ := bind_eq_ok_iff.1 h
  obtain rfl := Except.ok.inj hResult
  exact ⟨rfl, rfl, rfl, annotatedAt_of_mapM hAnnotations⟩

theorem AnnotatedClass.isOf_ofSyntax {outer : List Text} {t : NestedType} {c : AnnotatedClass}
    (h : AnnotatedClass.ofSyntax imports filePath (Text.join "." (outer ++ t.names)) t.annotations
      t.members = .ok c) : c.IsOf imports filePath outer t := by
  obtain ⟨methods, hMethods, h⟩ := bind_eq_ok_iff.1 h
  obtain ⟨annotations, hAnnotations, hResult⟩ := bind_eq_ok_iff.1 h
  obtain rfl := Except.ok.inj hResult
  refine ⟨rfl, rfl, annotatedAt_of_mapM hAnnotations, ?_⟩
  exact (mapM_eq_ok_iff.1 hMethods).imp fun m method => AnnotatedMethod.isOf_ofSyntax

/-- From further out the names on the way are longer by one. -/
theorem AnnotatedClass.IsOf.inside {outer : List Text} {t : NestedType} {c : AnnotatedClass}
    {name : Text} (h : c.IsOf imports filePath (outer ++ [name]) t) (i : Nat) :
    c.IsOf imports filePath outer (t.inside i name) := by
  refine ⟨?_, h.filePath, h.annotations, h.methods⟩
  rw [h.qualifiedName, List.append_assoc]
  rfl

end Conversion

/-! ## Names on the way -/

/-- The name of a type is joined to those around it, if there are any. -/
theorem qualify_join {outer : List Text} (hOuter : ∀ s ∈ outer, s ≠ []) (name : Text) :
    qualify (Text.join "." outer) name = Text.join "." (outer ++ [name]) := by
  by_cases hNone : outer = []
  · rw [hNone]
    rfl
  · have hJoined : Text.join "." outer ≠ [] := Text.join_ne_nil hNone hOuter
    rw [qualify, if_neg (by simpa using hJoined)]
    exact (List.append_assoc _ _ _).trans (Text.join_concat '.' name hNone).symm

/-- Whether a type is a class. -/
def NestedType.isClass (t : NestedType) : Bool :=
  decide (t.kind = .classType)

section Listing

variable {imports : ImportTable} {filePath : Text}

mutual

/-- The classes in a declaration are its classes in the order of reading. -/
theorem isOf_classesIn : (declaration : Declaration) → ∀ {i outer classes},
    (∀ s ∈ outer, s ≠ []) → (∀ t ∈ nestedTypes i declaration, ∀ name ∈ t.names, name ≠ []) →
      classesIn imports filePath (Text.join "." outer) declaration = .ok classes →
        List.Forall₂ (AnnotatedClass.IsOf imports filePath outer)
          ((nestedTypes i declaration).filter NestedType.isClass) classes
  | .type kind name annotations members, i, outer, classes => fun hOuter hNames h => by
      rw [nestedTypes] at hNames ⊢
      rw [List.forall_mem_cons, List.forall_mem_map] at hNames
      obtain ⟨hName, hInside⟩ := hNames
      rw [classesIn, qualify_join hOuter] at h
      have hOuter' : ∀ s ∈ outer ++ [name], s ≠ [] := by
        rw [List.forall_mem_append]
        exact ⟨hOuter, fun s hMem => hName s hMem⟩
      -- What is found further in is the same, seen from one type further out.
      have hMembers {more : List AnnotatedClass}
          (hMore : classesAmong imports filePath (Text.join "." (outer ++ [name])) members =
            .ok more) :
          List.Forall₂ (AnnotatedClass.IsOf imports filePath outer)
            (((nestedAmong 0 members).map (NestedType.inside i name)).filter NestedType.isClass)
            more := by
        rw [List.filter_map, List.forall₂_map_left_iff]
        refine (isOf_classesAmong members hOuter' (fun t hMem s hs => ?_) hMore).imp
          fun t c hClass => hClass.inside i
        exact hInside t hMem s (List.mem_cons_of_mem _ hs)
      by_cases hKind : kind = .classType
      · rw [if_pos hKind] at h
        obtain ⟨own, hOwn, h⟩ := bind_eq_ok_iff.1 h
        obtain ⟨more, hMore, h⟩ := bind_eq_ok_iff.1 h
        obtain rfl := Except.ok.inj h
        obtain ⟨c, hClass, rfl⟩ := map_eq_ok_iff.1 hOwn
        have hHere : NestedType.isClass ⟨[i], [name], kind, annotations, members⟩ = true :=
          decide_eq_true hKind
        rw [List.filter_cons, if_pos hHere]
        exact .cons (AnnotatedClass.isOf_ofSyntax hClass) (hMembers hMore)
      · rw [if_neg hKind] at h
        obtain ⟨own, hOwn, h⟩ := bind_eq_ok_iff.1 h
        obtain ⟨more, hMore, h⟩ := bind_eq_ok_iff.1 h
        obtain rfl := Except.ok.inj h
        obtain rfl := Except.ok.inj hOwn
        have hHere : ¬ NestedType.isClass ⟨[i], [name], kind, annotations, members⟩ = true :=
          fun hClass => hKind (of_decide_eq_true hClass)
        rw [List.filter_cons, if_neg hHere]
        exact hMembers hMore
  | .method _, _, _, _ => fun _ _ h => by
      obtain rfl := Except.ok.inj h
      rw [nestedTypes]
      exact .nil
  | .other, _, _, _ => fun _ _ h => by
      obtain rfl := Except.ok.inj h
      rw [nestedTypes]
      exact .nil

/-- The classes in several declarations are their classes in the order of reading. -/
theorem isOf_classesAmong : (declarations : List Declaration) → ∀ {i outer classes},
    (∀ s ∈ outer, s ≠ []) → (∀ t ∈ nestedAmong i declarations, ∀ name ∈ t.names, name ≠ []) →
      classesAmong imports filePath (Text.join "." outer) declarations = .ok classes →
        List.Forall₂ (AnnotatedClass.IsOf imports filePath outer)
          ((nestedAmong i declarations).filter NestedType.isClass) classes
  | [], _, _, _ => fun _ _ h => by
      obtain rfl := Except.ok.inj h
      rw [nestedAmong]
      exact .nil
  | declaration :: rest, i, outer, classes => fun hOuter hNames h => by
      rw [nestedAmong, List.forall_mem_append] at hNames
      obtain ⟨first, hFirst, h⟩ := bind_eq_ok_iff.1 h
      obtain ⟨more, hMore, h⟩ := bind_eq_ok_iff.1 h
      obtain rfl := Except.ok.inj h
      rw [nestedAmong, List.filter_append]
      exact List.rel_append (isOf_classesIn declaration hOuter hNames.1 hFirst)
        (isOf_classesAmong rest hOuter hNames.2 hMore)

end

end Listing

/-! ## Different names -/

/-- Whether the name of the package and those of the types are not empty, and the latter hold
no dots. -/
structure Java.CompilationUnit.WellNamed (tree : CompilationUnit) : Prop where
  package : tree.package ≠ some []
  names : ∀ t : NestedType, t.In tree.declarations → ∀ name ∈ t.names,
    name ≠ [] ∧ ('.' : CodePoint) ∉ name

instance (tree : CompilationUnit) : Decidable tree.WellNamed :=
  decidable_of_iff (tree.package ≠ some [] ∧ ∀ t ∈ nestedAmong 0 tree.declarations,
      ∀ name ∈ t.names, name ≠ [] ∧ ('.' : CodePoint) ∉ name) <| by
    simp only [mem_nestedAmong]
    exact ⟨fun h => ⟨h.1, h.2⟩, fun h => ⟨h.package, h.names⟩⟩

/-- Source files that are parsed have such names. -/
theorem wellNamed_of_parse {source : Text} {tree : CompilationUnit}
    (h : CompilationUnit.parse source = .ok tree) : tree.WellNamed := by
  obtain ⟨hPackage, hNames⟩ := isName_of_parse h
  refine ⟨hPackage, fun t hIn name hName => ?_⟩
  have hIsName := hNames t hIn name hName
  exact ⟨hIsName.ne_nil, hIsName.dot_notMem⟩

/-- Names without dots can be told from what they are joined to, whatever the package is. -/
theorem eq_of_join_eq {package : Option Text} {names names' : List Text}
    (hSome : names ≠ []) (hSome' : names' ≠ [])
    (hPlain : ∀ name ∈ names, ('.' : CodePoint) ∉ name)
    (hPlain' : ∀ name ∈ names', ('.' : CodePoint) ∉ name)
    (h : Text.join "." (package.toList ++ names) = Text.join "." (package.toList ++ names')) :
    names = names' := by
  have hJoin : Text.join ['.'] names = Text.join ['.'] names' := by
    cases package with
    | none => exact h
    | some outer =>
        obtain ⟨first, rest, rfl⟩ := List.exists_cons_of_ne_nil hSome
        obtain ⟨first', rest', rfl⟩ := List.exists_cons_of_ne_nil hSome'
        have hBehind := (Text.join_cons_cons '.' outer first rest).symm.trans
          (h.trans (Text.join_cons_cons '.' outer first' rest'))
        exact List.tail_eq_of_cons_eq (List.append_cancel_left hBehind)
  exact Text.eq_of_join_eq_join hSome hSome' hPlain hPlain' hJoin

/-! ## The account -/

/-- The classes of a tree. -/
def foundClasses (tree : CompilationUnit) : List NestedType :=
  (nestedAmong 0 tree.declarations).filter NestedType.isClass

section Account

variable {filePath : Text} {tree : CompilationUnit} {classes : List AnnotatedClass}

theorem mem_foundClasses {t : NestedType} :
    t ∈ foundClasses tree ↔ t.In tree.declarations ∧ t.kind = .classType := by
  rw [foundClasses, List.mem_filter, mem_nestedAmong, NestedType.isClass, decide_eq_true_iff]

theorem pairwise_foundClasses : (foundClasses tree).Pairwise NestedType.Before :=
  (pairwise_nestedAmong 0 tree.declarations).filter _

/-- The list has one class for each class declaration, in the same order. -/
theorem isOf_classes (hNamed : tree.WellNamed)
    (h : CompilationUnit.classes filePath tree = .ok classes) :
    List.Forall₂ (AnnotatedClass.IsOf (.ofImports tree.imports) filePath tree.package.toList)
      (foundClasses tree) classes := by
  have hOuter : ∀ s ∈ tree.package.toList, s ≠ [] := by
    rintro s hMem rfl
    exact hNamed.package (Option.mem_toList.1 hMem)
  have hNames : ∀ t ∈ nestedAmong 0 tree.declarations, ∀ name ∈ t.names, name ≠ [] :=
    fun t hMem name hName => (hNamed.names t (mem_nestedAmong.1 hMem) name hName).1
  refine isOf_classesAmong tree.declarations hOuter hNames ?_
  rw [CompilationUnit.classes] at h
  cases hPackage : tree.package with
  | none => rwa [hPackage] at h
  | some package => rwa [hPackage] at h

/-- If siblings have different names, so have all classes in the list. -/
theorem nodup_qualifiedNames (hNamed : tree.WellNamed)
    (hDistinct : DistinctSiblings tree.declarations)
    (h : CompilationUnit.classes filePath tree = .ok classes) :
    (classes.map AnnotatedClass.qualifiedName).Nodup := by
  have hNames : classes.map AnnotatedClass.qualifiedName =
      (foundClasses tree).map fun t => Text.join "." (tree.package.toList ++ t.names) := by
    rw [← List.forall₂_eq_eq_eq, List.forall₂_map_left_iff, List.forall₂_map_right_iff]
    exact (isOf_classes hNamed h).flip.imp fun c t hClass => hClass.qualifiedName
  rw [hNames]
  -- Names determine the class, and the classes are different since they are in order.
  refine List.Nodup.map_on ?_ ?_
  · intro s hs t ht hSame
    have hs := (mem_foundClasses.1 hs).1
    have ht := (mem_foundClasses.1 ht).1
    have hPlain {u : NestedType} (hu : u.In tree.declarations) :
        ∀ name ∈ u.names, ('.' : CodePoint) ∉ name :=
      fun name hName => (hNamed.names u hu name hName).2
    have hOnWay : s.names = t.names :=
      eq_of_join_eq hs.names_ne_nil ht.names_ne_nil (hPlain hs) (hPlain ht) hSame
    exact hs.eq_of_names_eq ht hDistinct hOnWay
  · refine pairwise_foundClasses.imp fun hBefore => ?_
    rintro rfl
    exact NestedType.not_before_self _ hBefore

end Account

theorem classesOfSource_eq_ok_iff {filePath source : Text} {tree : CompilationUnit}
    (hTree : CompilationUnit.parse source = .ok tree) {classes : List AnnotatedClass} :
    classesOfSource filePath source = .ok classes ↔
      CompilationUnit.classes filePath tree = .ok classes := by
  cases hClasses : CompilationUnit.classes filePath tree with
  | error e =>
      cases e
      simp [classesOfSource, hTree, hClasses, bind, Except.bind, throw, throwThe,
        MonadExceptOf.throw]
  | ok found => simp [classesOfSource, hTree, hClasses, bind, Except.bind, pure, Except.pure]

/-- The classes of a source file and of the tree that it is parsed to.

* A tree that a text is parsed to is named as it should be, and its classes are those of the
  text.
* There is a list of classes exactly if no literal that it needs is undecodable.
* Its classes belong, one by one, to the class declarations that are found by going from body
  to body, in the order of reading.  Each has the names on the way and its own after the
  package, the annotations before it and the methods of its own body; these and all annotations
  know what they belong to.
* If the types in one body always have different names, so have all classes. -/
theorem classes_account (filePath : Text) (tree : CompilationUnit) :
    (∀ source, CompilationUnit.parse source = .ok tree →
      tree.WellNamed ∧ ∀ classes, classesOfSource filePath source = .ok classes ↔
        CompilationUnit.classes filePath tree = .ok classes) ∧
    (tree.WellNamed →
      ((∃ classes, CompilationUnit.classes filePath tree = .ok classes) ↔ ¬ tree.Undecodable) ∧
      ∀ classes, CompilationUnit.classes filePath tree = .ok classes →
        (∃ found : List NestedType,
          (∀ t, t ∈ found ↔ t.In tree.declarations ∧ t.kind = .classType) ∧
          found.Pairwise NestedType.Before ∧
          List.Forall₂ (AnnotatedClass.IsOf (.ofImports tree.imports) filePath
            tree.package.toList) found classes) ∧
        (DistinctSiblings tree.declarations →
          (classes.map AnnotatedClass.qualifiedName).Nodup)) := by
  constructor
  · intro source hTree
    exact ⟨wellNamed_of_parse hTree, fun classes => classesOfSource_eq_ok_iff hTree⟩
  · intro hNamed
    refine ⟨by rw [← not_isError_iff, isError_classes], fun classes h => ⟨?_, ?_⟩⟩
    · exact ⟨foundClasses tree, fun t => mem_foundClasses, pairwise_foundClasses,
        isOf_classes hNamed h⟩
    · exact fun hDistinct => nodup_qualifiedNames hNamed hDistinct h

/-- A file with an interface around a class that has its name, with an enum and a class of that
name in it, and with another class after the interface. -/
def shopTree : CompilationUnit where
  package := some "shop.web"
  imports := []
  declarations :=
    [.type .interfaceType "Api" [] [.method ⟨"list", [], []⟩,
      .type .classType "Api" [⟨"RestController", .absent⟩] [.other, .method ⟨"list", [], []⟩,
        .type .enumType "Kind" [] [.type .classType "Api" [] []], .method ⟨"show", [], []⟩]],
      .type .classType "Shop" [] []]

/-- The classes come in the order of reading, each under a name of its own. -/
theorem shopTree_classes :
    ∃ classes, CompilationUnit.classes "Shop.java" shopTree = .ok classes ∧
      classes.map AnnotatedClass.qualifiedName =
        (["shop.web.Api.Api", "shop.web.Api.Api.Kind.Api", "shop.web.Shop"] : List Text) ∧
      (classes.map AnnotatedClass.qualifiedName).Nodup := by
  obtain ⟨-, hTree⟩ := classes_account "Shop.java" shopTree
  obtain ⟨-, hClasses⟩ := hTree (by decide)
  obtain ⟨-, hNodup⟩ := hClasses _ rfl
  exact ⟨_, rfl, by decide, hNodup (by decide)⟩

/-- A class with a method whose annotation has a backslash before the letters `uZ`; the backslash
itself is written as an escape. -/
def undecodableMethod : Text :=
  "class A \x7b @GetMapping(\"\\u005cuZ\") void m() \x7b\x7d \x7d"

/-- A text can be parsed and have a class, and there is no list of its classes. -/
theorem undecodableMethod_not_listed :
    (∃ tree, CompilationUnit.parse undecodableMethod = .ok tree ∧
      ∃ t : NestedType, t.In tree.declarations ∧ t.kind = .classType) ∧
    ¬ ∃ classes, classesOfSource "A.java" undecodableMethod = .ok classes := by
  constructor
  · have hParsed : ((CompilationUnit.parse undecodableMethod).map fun tree =>
        (foundClasses tree).isEmpty).toOption = some false := by
      decide +kernel
    obtain ⟨tree, hTree, hSome⟩ := map_eq_ok_iff.1 (toOption_eq_some_iff.1 hParsed)
    obtain ⟨t, hMem⟩ := List.exists_mem_of_ne_nil _ (List.isEmpty_eq_false_iff.1 hSome)
    exact ⟨tree, hTree, t, mem_foundClasses.1 hMem⟩
  · have hFails : (classesOfSource "A.java" undecodableMethod).isOk = false := by
      decide +kernel
    rintro ⟨classes, hClasses⟩
    rw [hClasses] at hFails
    cases hFails

end SpringAudit
