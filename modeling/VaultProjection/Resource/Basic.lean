import VaultProjection.Kube.Output
import VaultProjection.Key
/-!
Declaring resources: each asks for one object of a vault to be projected into a Secret, a ConfigMap
or both, and has a status in which the controller notes what it wrote last.
-/

namespace VaultProjection

/-! ## What is read -/

/-- An object of a vault, as a resource names it. -/
structure VaultObject where
  name : String
  type : String
  /-- The latest version if it is absent. -/
  version : Option String
  contentType : Option String
  deriving DecidableEq, Repr

structure VaultRef where
  /-- The name of the vault, or its whole address. -/
  name : String
  object : VaultObject
  deriving DecidableEq, Repr

/-! ## What is written -/

structure SecretOutput where
  name : String
  type : Option String
  dataKey : Option String
  deriving DecidableEq, Repr

structure ConfigMapOutput where
  name : String
  dataKey : Option String
  deriving DecidableEq, Repr

structure Outputs where
  secret : Option SecretOutput
  configMap : Option ConfigMapOutput
  /-- The steps that a plain secret goes through, in order. -/
  transform : List String
  deriving DecidableEq, Repr

def Outputs.none : Outputs := ⟨.none, .none, []⟩

structure Spec where
  vault : VaultRef
  output : Outputs
  deriving DecidableEq, Repr

/-! ## What was written -/

/-- The name and content of each output as last written, in two groups, and when that was. -/
structure Status where
  secretName : Option String
  secretHash : Option String
  configMapName : Option String
  configMapHash : Option String
  lastAzureUpdate : Option String
  deriving DecidableEq, Repr

def Status.empty : Status := ⟨none, none, none, none, none⟩

structure Resource where
  metadata : Kube.ObjectMeta
  spec : Spec
  status : Option Status
  deriving BEq, Repr

/-! ## Fixed names -/

/-- The API group and version of declaring resources. -/
def Resource.apiVersion : String := "spv.no/v2alpha1"

def Resource.kind : String := Kube.Kind.declaring.name

/-- The type of a Secret whose output names none. -/
def defaultSecretType : String := "Opaque"

/-- The type of a Secret that holds a certificate chain and a private key. -/
def tlsSecretType : String := "kubernetes.io/tls"

/-- The type of a Secret that holds access to an image registry. -/
def dockerSecretType : String := "kubernetes.io/dockerconfigjson"

def tlsCertKey : String := "tls.crt"
def tlsPrivateKeyKey : String := "tls.key"
def dockerConfigKey : String := ".dockerconfigjson"

/-- The name under which the controller writes objects, labels them and reports events. -/
def controllerName : String := "keyvault-secret-controller"

/-- The label by which outputs are told from other objects. -/
def managedByLabel : String := "app.kubernetes.io/managed-by"

/-! ## Reading a resource -/

/-- A text that is there and not empty. -/
def nonempty? (s : Option String) : Option String := s.filter (!·.isEmpty)

def SecretOutput.key? (o : SecretOutput) : Option String := nonempty? o.dataKey
def ConfigMapOutput.key? (o : ConfigMapOutput) : Option String := nonempty? o.dataKey

namespace Resource

/-- The Secret that is asked for; one without a name does not count. -/
def secretOutput? (r : Resource) : Option SecretOutput :=
  r.spec.output.secret.filter (!·.name.isEmpty)

/-- The ConfigMap that is asked for; one without a name does not count. -/
def configMapOutput? (r : Resource) : Option ConfigMapOutput :=
  r.spec.output.configMap.filter (!·.name.isEmpty)

/-- A resource that asks for no output is inert. -/
def hasOutput (r : Resource) : Bool := r.secretOutput?.isSome || r.configMapOutput?.isSome

/-- The type of the Secret that is asked for. -/
def secretType (r : Resource) : String :=
  (nonempty? (r.secretOutput?.bind (·.type))).getD defaultSecretType

/-- The owner reference that makes an output belong to the resource; it needs a name and a uid. -/
def ownerReference? (r : Resource) : Option Kube.OwnerReference :=
  match r.metadata.name, r.metadata.uid with
  | some name, some uid => some ⟨apiVersion, none, some true, kind, name, uid⟩
  | _, _ => none

theorem ownerReference?_eq_some {r : Resource} {owner : Kube.OwnerReference} :
    r.ownerReference? = some owner ↔
      ∃ name uid, r.metadata.name = some name ∧ r.metadata.uid = some uid ∧
        owner = ⟨apiVersion, none, some true, kind, name, uid⟩ := by
  unfold ownerReference?
  split
  · next name uid hname huid => simp [hname, huid, eq_comm]
  · next hnone => simpa using fun name hname uid huid => (hnone name uid hname huid).elim

/-- How events name the resource. -/
def reference (r : Resource) : Kube.ObjectReference :=
  ⟨some apiVersion, none, some kind, r.metadata.name, r.metadata.ns, none, r.metadata.uid⟩

end Resource

/-! ## Ownership -/

/-- Some owner reference of the object controls it and names the kind, name and uid of `owner`. -/
def Kube.ObjectMeta.isControlledBy (m : Kube.ObjectMeta) (owner : Kube.OwnerReference) : Bool :=
  (m.ownerReferences.getD []).any fun r =>
    r.controller == some true && r.kind == owner.kind && r.name == owner.name && r.uid == owner.uid

end VaultProjection
