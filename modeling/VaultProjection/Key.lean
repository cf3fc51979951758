import VaultProjection.Text.Basic
/-!
Keys of the work queues: a namespace and a name with a slash between them.
-/

namespace VaultProjection.Key

/-- The key of a resource. -/
def join (ns name : String) : String := ns ++ "/" ++ name

/-- The namespace and name of a key: exactly one slash, and text on both sides of it. -/
def split? (key : String) : Option (String × String) :=
  match Text.cut? '/' key.toList with
  | none => none
  | some (ns, name) =>
    if ns.isEmpty || name.isEmpty || name.contains '/' then none
    else some (String.ofList ns, String.ofList name)

/-- A namespace or name that a key can hold: some text without a slash. -/
def IsPart (s : String) : Prop := s ≠ "" ∧ '/' ∉ s.toList

instance (s : String) : Decidable (IsPart s) := inferInstanceAs (Decidable (_ ∧ _))

theorem split?_join {ns name : String} (hns : IsPart ns) (hname : IsPart name) :
    split? (join ns name) = some (ns, name) := by
  have hcut : Text.cut? '/' (join ns name).toList = some (ns.toList, name.toList) := by
    have h : (join ns name).toList = ns.toList ++ '/' :: name.toList := by simp [join]
    rw [h, Text.cut?_append hns.2]
  have hns' : ns.toList ≠ [] := by simpa using hns.1
  have hname' : name.toList ≠ [] := by simpa using hname.1
  simp [split?, hcut, hns', hname', hname.2]

/-- Only one namespace and name make a key with one slash. -/
theorem join_inj {a b ns name : String} (hns : IsPart ns) (hname : IsPart name)
    (h : join a b = join ns name) : a = ns ∧ b = name := by
  have hlist : a.toList ++ '/' :: b.toList = ns.toList ++ '/' :: name.toList := by
    simpa [join] using congrArg String.toList h
  rcases List.append_eq_append_iff.1 hlist with ⟨more, heq, hrest⟩ | ⟨more, heq, hrest⟩
  · cases more with
    | nil => simp_all [String.ext_iff]
    | cons c more =>
      obtain rfl : '/' = c := (List.cons.inj hrest).1
      exact absurd (by simp [heq]) hns.2
  · cases more with
    | nil => simp_all [String.ext_iff]
    | cons c more =>
      have hname' : name.toList = more ++ '/' :: b.toList := (List.cons.inj hrest).2
      exact absurd (by simp [hname']) hname.2

end VaultProjection.Key
