import SpringAudit.Endpoint.Basic

/-!
# The order of reports

Texts are ordered by code points, and endpoints by their URLs and then by their
HTTP methods.  Both orders are total and transitive, which is what sorting needs;
that of endpoints is transitive only because no two different texts come before
each other.  If URL and HTTP method tell the endpoints of a list apart, the sorted
list does not depend on how they were listed.
-/

namespace SpringAudit

namespace Text

theorem ble_cons_iff {a b : CodePoint} {s t : Text} :
    ble (a :: s) (b :: t) = true ↔ a.toNat < b.toNat ∨ a = b ∧ ble s t = true := by
  simp [ble]

theorem ble_total (s t : Text) : ble s t = true ∨ ble t s = true := by
  induction s generalizing t with
  | nil => exact .inl rfl
  | cons a s ih =>
      cases t with
      | nil => exact .inr rfl
      | cons b t =>
          rw [ble_cons_iff, ble_cons_iff]
          rcases Nat.lt_trichotomy a.toNat b.toNat with hLess | hSame | hGreater
          · exact .inl (.inl hLess)
          · have hEq := CodePoint.ext_toNat hSame
            rcases ih t with hRest | hRest
            · exact .inl (.inr ⟨hEq, hRest⟩)
            · exact .inr (.inr ⟨hEq.symm, hRest⟩)
          · exact .inr (.inl hGreater)

theorem ble_trans {s t u : Text} (hFirst : ble s t = true) (hSecond : ble t u = true) :
    ble s u = true := by
  induction s generalizing t u with
  | nil => rfl
  | cons a s ih =>
      cases t with
      | nil => cases hFirst
      | cons b t =>
          cases u with
          | nil => cases hSecond
          | cons c u =>
              rw [ble_cons_iff] at hFirst hSecond ⊢
              rcases hFirst with hLess | ⟨rfl, hRest⟩
              · rcases hSecond with hLess' | ⟨rfl, -⟩
                · exact .inl (Nat.lt_trans hLess hLess')
                · exact .inl hLess
              · rcases hSecond with hLess' | ⟨rfl, hRest'⟩
                · exact .inl hLess'
                · exact .inr ⟨rfl, ih hRest hRest'⟩

theorem ble_antisymm {s t : Text} (hFirst : ble s t = true) (hSecond : ble t s = true) :
    s = t := by
  induction s generalizing t with
  | nil =>
      cases t with
      | nil => rfl
      | cons b t => cases hSecond
  | cons a s ih =>
      cases t with
      | nil => cases hFirst
      | cons b t =>
          rw [ble_cons_iff] at hFirst hSecond
          rcases hFirst with hLess | ⟨rfl, hRest⟩
          · rcases hSecond with hGreater | ⟨rfl, -⟩
            · omega
            · omega
          · rcases hSecond with hLess | ⟨-, hRest'⟩
            · omega
            · rw [ih hRest hRest']

end Text

namespace Endpoint

theorem reportedBefore_iff {a b : Endpoint} :
    a.reportedBefore b = true ↔
      a.url ≠ b.url ∧ a.url.ble b.url = true ∨
        a.url = b.url ∧ a.httpMethod.ble b.httpMethod = true := by
  unfold reportedBefore
  by_cases hUrl : a.url = b.url
  · simp [hUrl]
  · simp [hUrl]

theorem reportedBefore_total (a b : Endpoint) :
    (a.reportedBefore b || b.reportedBefore a) = true := by
  rw [Bool.or_eq_true, reportedBefore_iff, reportedBefore_iff]
  by_cases hUrl : a.url = b.url
  · rcases Text.ble_total a.httpMethod b.httpMethod with hMethod | hMethod
    · exact .inl (.inr ⟨hUrl, hMethod⟩)
    · exact .inr (.inr ⟨hUrl.symm, hMethod⟩)
  · rcases Text.ble_total a.url b.url with hLe | hLe
    · exact .inl (.inl ⟨hUrl, hLe⟩)
    · exact .inr (.inl ⟨fun h => hUrl h.symm, hLe⟩)

theorem reportedBefore_trans (a b c : Endpoint) (hFirst : a.reportedBefore b = true)
    (hSecond : b.reportedBefore c = true) : a.reportedBefore c = true := by
  rw [reportedBefore_iff] at hFirst hSecond ⊢
  rcases hFirst with ⟨hUrl, hLe⟩ | ⟨hUrl, hMethod⟩
  · rcases hSecond with ⟨hUrl', hLe'⟩ | ⟨hUrl', -⟩
    · refine .inl ⟨?_, Text.ble_trans hLe hLe'⟩
      -- Two URLs on either side of a third one would have to equal it.
      intro hSame
      rw [← hSame] at hLe'
      exact hUrl (Text.ble_antisymm hLe hLe')
    · rw [← hUrl']
      exact .inl ⟨hUrl, hLe⟩
  · rcases hSecond with ⟨hUrl', hLe'⟩ | ⟨hUrl', hMethod'⟩
    · rw [hUrl]
      exact .inl ⟨hUrl', hLe'⟩
    · exact .inr ⟨hUrl.trans hUrl', Text.ble_trans hMethod hMethod'⟩

/-- Endpoints that come before each other differ in nothing but their guards. -/
theorem reportedBefore_antisymm {a b : Endpoint} (hFirst : a.reportedBefore b = true)
    (hSecond : b.reportedBefore a = true) : a.url = b.url ∧ a.httpMethod = b.httpMethod := by
  rw [reportedBefore_iff] at hFirst hSecond
  rcases hFirst with ⟨hUrl, hLe⟩ | ⟨hUrl, hMethod⟩
  · rcases hSecond with ⟨-, hLe'⟩ | ⟨hUrl', -⟩
    · exact absurd (Text.ble_antisymm hLe hLe') hUrl
    · exact absurd hUrl'.symm hUrl
  · rcases hSecond with ⟨hUrl', -⟩ | ⟨-, hMethod'⟩
    · exact absurd hUrl.symm hUrl'
    · exact ⟨hUrl, Text.ble_antisymm hMethod hMethod'⟩

end Endpoint

/-- Sorting neither adds nor loses an endpoint. -/
theorem sortEndpoints_perm (endpoints : List Endpoint) :
    (sortEndpoints endpoints).Perm endpoints :=
  List.mergeSort_perm endpoints Endpoint.reportedBefore

/-- Sorted endpoints stand in the order of reports. -/
theorem sortEndpoints_pairwise (endpoints : List Endpoint) :
    (sortEndpoints endpoints).Pairwise fun a b => a.reportedBefore b = true :=
  List.pairwise_mergeSort Endpoint.reportedBefore_trans Endpoint.reportedBefore_total endpoints

/-- The sorted list does not depend on the order before, unless two endpoints differ in their
guards alone. -/
theorem sortEndpoints_eq_of_perm {l l' : List Endpoint} (hPerm : l.Perm l')
    (hUnique : ∀ a ∈ l, ∀ b ∈ l, a.url = b.url → a.httpMethod = b.httpMethod → a = b) :
    sortEndpoints l = sortEndpoints l' := by
  have hSorted : (sortEndpoints l).Perm (sortEndpoints l') :=
    (sortEndpoints_perm l).trans (hPerm.trans (sortEndpoints_perm l').symm)
  refine hSorted.eq_of_pairwise (fun a b hA hB hFirst hSecond => ?_)
    (sortEndpoints_pairwise l) (sortEndpoints_pairwise l')
  obtain ⟨hUrl, hMethod⟩ := Endpoint.reportedBefore_antisymm hFirst hSecond
  have hInL : b ∈ l := (sortEndpoints_perm l).mem_iff.1 (hSorted.mem_iff.2 hB)
  exact hUnique a ((sortEndpoints_perm l).mem_iff.1 hA) b hInL hUrl hMethod

end SpringAudit
