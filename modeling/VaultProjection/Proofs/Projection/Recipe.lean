import VaultProjection.Projection.Handler

/-!
# What a recipe comes to

A recipe reads the vault at most once, so it comes to one result for every way in which the vault
answers.
-/

namespace VaultProjection

/-- What a recipe comes to if the vault answers as it does here. -/
def Recipe.result {α : Type} (vault : Vault.ObjectKind → Except Vault.ReadError Vault.RawObject) :
    Recipe α → Except ProjectionError α
  | .given result => result
  | .read kind finish =>
    match vault kind with
    | .error e => .error (.vault e)
    | .ok raw => finish raw

/-- A recipe under a key that is there makes one entry. -/
theorem Recipe.result_underKey {α : Type} {kind : Vault.ObjectKind} {key : String}
    {vault : Vault.ObjectKind → Except Vault.ReadError Vault.RawObject} {raw : Vault.RawObject}
    (h : vault kind = .ok raw) (output : OutputKind)
    (finish : Vault.RawObject → Except ProjectionError α) :
    (Recipe.underKey output kind (some key) finish).result vault =
      (finish raw).map fun v => [(key, v)] := by
  simp [underKey, result, h]

end VaultProjection
