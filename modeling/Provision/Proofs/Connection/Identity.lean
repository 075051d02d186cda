import Mathlib
import Provision.Connection.Identity
import Provision.Proofs.Connection.Failure
import Provision.Proofs.Resource.Children

/-!
# Equality is a congruence

Equal configurations cannot be told apart by what is done with them: a change reads nothing but
what takes part in their equality, so it attempts the same with both and leaves them equal. Equal
configurations have the same hash, so a set has one configuration of every class of equal ones
that were put in, in whatever order.
-/

namespace Provision

/-- The fields with the identity, and nothing in the others. -/
def Config.Identity.fields (identity : Config.Identity) : Fields where
  normalUrl := identity.normalUrl
  table := identity.table
  username := identity.username
  password := identity.password
  maxConnections := identity.maxConnections
  dataSource := identity.dataSource

namespace Fields

variable {fields other : Fields}

/-! ### What is equal -/

/-- The fields that take part in equality. -/
def identity (fields : Fields) : Config.Identity where
  normalUrl := fields.normalUrl
  table := fields.table
  username := fields.username
  password := fields.password
  maxConnections := fields.maxConnections
  dataSource := fields.dataSource

theorem isSame_iff :
  fields.isSame other ↔ fields.identity = other.identity
  := by
  simp [isSame, identity, and_assoc]

theorem isSame_equivalence :
  Equivalence fun fields other : Fields => (fields.isSame other : Prop)
  := by
  constructor
  · intro fields
    apply isSame_iff.mpr rfl
  · intro fields other h
    apply isSame_iff.mpr (isSame_iff.mp h).symm
  · intro fields other third h h'
    apply isSame_iff.mpr ((isSame_iff.mp h).trans (isSame_iff.mp h'))

/-- Nothing but the identity is hashed. -/
theorem hash_identity {σ : Type} (h : Hasher σ) (fields : Fields) :
  fields.hash h = fields.identity.fields.hash h
  := rfl

/-- Nothing but the identity is shown. -/
theorem text_identity (fields : Fields) :
  fields.text = fields.identity.fields.text
  := rfl

/-- Nothing but the identity tells whether a configuration can be used. -/
theorem validate_identity (fields : Fields) :
  fields.validate = fields.identity.fields.validate
  := rfl

theorem hash_eq_of_isSame {σ : Type} (h : Hasher σ) (hsame : fields.isSame other) :
  fields.hash h = other.hash h
  := by
  rw [hash_identity, isSame_iff.mp hsame, ← hash_identity]

theorem text_eq_of_isSame (hsame : fields.isSame other) :
  fields.text = other.text
  := by
  rw [text_identity, isSame_iff.mp hsame, ← text_identity]

end Fields

/-! ### Changes -/

namespace Update

variable {α β : Type} {u : Update α} {f : α → Update β}

/-- With fields of the same identity the work attempts the same, and leaves the same identity. -/
def Respects (u : Update α) : Prop :=
  ∀ fields other, fields.identity = other.identity →
    (u fields).1 = (u other).1 ∧ (u fields).2.identity = (u other).2.identity

theorem respects_lift (x : Attempt ConfigError α) :
  (lift x).Respects
  := fun _ _ h => ⟨rfl, h⟩

/-- What is written may depend on the identity. -/
theorem respects_write {g : Fields → Fields}
    (hg : ∀ fields, (g fields).identity = (g fields.identity.fields).identity) :
  (write g).Respects
  := by
  intro fields other h
  use rfl
  change (g fields).identity = (g other).identity
  rw [hg, h, ← hg]

theorem Respects.bind (hu : u.Respects) (hf : ∀ a, (f a).Respects) :
  (u >>= f).Respects
  := by
  intro fields other h
  obtain ⟨hattempt, hidentity⟩ := hu fields other h
  cases hresult : (u fields).1.result with
  | error e =>
      have hresult' : (u other).1.result = .error e := by rw [← hattempt, hresult]
      rw [bind_of_error hresult, bind_of_error hresult', hattempt]
      use rfl
  | ok a =>
      have hresult' : (u other).1.result = .ok a := by rw [← hattempt, hresult]
      obtain ⟨hlater, hafter⟩ := hf a _ _ hidentity
      rw [bind_of_ok hresult, bind_of_ok hresult', hattempt, hlater]
      use rfl

end Update

namespace Fields

variable [DomainNames]

/-- What is read off a URL and logged depends on nothing but the URL. -/
theorem respects_setUrl (raw : String) :
  (setUrl raw).Respects
  := by
  intro fields other h
  rw [setUrl_apply, setUrl_apply]
  cases ConnectionUrl.parse raw with
  | error e => use rfl
  | ok url =>
      use rfl
      obtain ⟨-, htable, husername, hpassword, hmaxConnections, hdataSource⟩ :=
        Config.Identity.mk.inj h
      simp only [identity, withUrl, htable, husername, hpassword, hmaxConnections, hdataSource]

theorem respects_setProperty (key : PropertyKey) (value : String) :
  (setProperty key value).Respects
  := by
  cases key with
  | url => apply respects_setUrl
  | username | password | table | dataSource =>
      apply Update.respects_write
      intro _
      rfl
  | maxConnections | poolDisabled | maxLifetime | idleTimeout =>
      apply (Update.respects_lift _).bind
      intro _
      apply Update.respects_write
      intro _
      rfl

theorem respects_applyProperty (key value : String) :
  (applyProperty key value).Respects
  := by
  apply (Update.respects_lift _).bind
  intro _
  cases PropertyKey.ofText? key with
  | none => apply Update.respects_lift
  | some known => apply respects_setProperty

end Fields

/-- A change reads nothing but the identity of a configuration, and writes to it nothing else. -/
theorem Change.respects_update [DomainNames] (change : Change) :
  change.update.Respects
  := by
  cases change with
  | url raw => apply Fields.respects_setUrl
  | property key value => apply Fields.respects_applyProperty
  | renormalize =>
      intro fields other h
      have hnormal : fields.normalUrl = other.normalUrl := congrArg Config.Identity.normalUrl h
      have hupdate : ∀ fields : Fields,
          renormalize.update fields = Fields.setUrl (fields.normalUrl.getD "") fields :=
        fun _ => rfl
      rw [hupdate, hupdate, hnormal]
      apply Fields.respects_setUrl _ fields other h
  | username _ | password _ | table _ | dataSource _ | maxConnections _ | poolDisabled _
  | maxLifetime _ | idleTimeout _ =>
      apply Update.respects_write
      intro _
      rfl

/-! ### Requests in order -/

/-- Something to ask of a configuration: to change, or to tell whether it can be used. -/
inductive Request where
  | change (change : Change)
  | validate

/-- What came of a request cannot be told apart: the attempts are the same, and the
configurations after them are equal, with the same hash and the same text. -/
structure AnswerSame (made made' : Attempt ConfigError Unit × Fields) : Prop where
  attempt : made.1 = made'.1
  isSame : made.2.isSame made'.2
  hash : ∀ {σ : Type} (h : Hasher σ), made.2.hash h = made'.2.hash h
  text : made.2.text = made'.2.text

namespace Fields

variable {fields other : Fields}

section

variable [DomainNames]

/-- What is attempted on a request, and the fields after it. -/
def answer (fields : Fields) : Request → Attempt ConfigError Unit × Fields
  | .change change => change.update fields
  | .validate => (.ofExcept fields.validate, fields)

/-- What is attempted on each of the requests, with the fields after it. -/
def answers (fields : Fields) : List Request → List (Attempt ConfigError Unit × Fields)
  | [] => []
  | request :: rest => fields.answer request :: (fields.answer request).2.answers rest

/-- A request is answered the same by equal configurations, and leaves them equal. -/
theorem answer_same (h : fields.isSame other) (request : Request) :
  AnswerSame (fields.answer request) (other.answer request)
  := by
  have hidentity := isSame_iff.mp h
  have hanswer : (fields.answer request).1 = (other.answer request).1
      ∧ (fields.answer request).2.isSame (other.answer request).2 := by
    cases request with
    | change change =>
        obtain ⟨hattempt, hafter⟩ := change.respects_update fields other hidentity
        use hattempt, isSame_iff.mpr hafter
    | validate =>
        rw [answer, answer, validate_identity, hidentity, ← validate_identity]
        use rfl
  obtain ⟨hattempt, hsame⟩ := hanswer
  exact ⟨hattempt, hsame, fun h => hash_eq_of_isSame h hsame, text_eq_of_isSame hsame⟩

/-- Requests are answered the same by equal configurations, one after the other. -/
theorem answers_same (h : fields.isSame other) (requests : List Request) :
  List.Forall₂ AnswerSame (fields.answers requests) (other.answers requests)
  := by
  induction requests generalizing fields other with
  | nil => apply List.Forall₂.nil
  | cons request rest ih =>
      have hfirst := answer_same h request
      apply List.Forall₂.cons hfirst
      apply ih hfirst.isSame

end

/-! ### Sets -/

/-- Equality of configurations. -/
def setoid : Setoid Fields :=
  ⟨fun fields other => fields.isSame other, isSame_equivalence⟩

/-- The class of the configurations that are equal to one. -/
def sameAs (fields : Fields) : Quotient setoid :=
  Quotient.mk setoid fields

theorem sameAs_eq_iff :
  fields.sameAs = other.sameAs ↔ fields.isSame other
  := Quotient.eq

instance : DecidableEq (Quotient setoid) :=
  fun x y => Quotient.recOnSubsingleton₂ x y fun _ _ => decidable_of_iff' _ sameAs_eq_iff

variable {σ : Type} (h : Hasher σ)

/-- The hash keeps no equal configurations apart. -/
theorem insert_eq (kept : List Fields) (fields : Fields) :
  insert h kept fields
    = if fields.sameAs ∈ kept.map sameAs then kept else kept ++ [fields]
  := by
  rw [insert]
  congr 1
  rw [List.any_eq_true, List.mem_map, eq_iff_iff]
  simp only [Bool.and_eq_true, beq_iff_eq, sameAs_eq_iff]
  constructor
  · rintro ⟨other, hother, -, hsame⟩
    use other, hother
  · rintro ⟨other, hother, hsame⟩
    use other, hother, hash_eq_of_isSame h hsame

/-- No two configurations of a set are equal. -/
theorem nodup_insert {kept : List Fields} (hkept : (kept.map sameAs).Nodup) (fields : Fields) :
  ((insert h kept fields).map sameAs).Nodup
  := by
  rw [insert_eq]
  split_ifs with hmem
  · apply hkept
  · rw [List.map_append, List.nodup_append_comm]
    apply List.nodup_cons.mpr ⟨hmem, hkept⟩

theorem toFinset_insert (kept : List Fields) (fields : Fields) :
  ((insert h kept fields).map sameAs).toFinset
    = Insert.insert fields.sameAs (kept.map sameAs).toFinset
  := by
  rw [insert_eq]
  split_ifs with hmem
  · rw [Finset.insert_eq_self.mpr (List.mem_toFinset.mpr hmem)]
  · rw [List.map_append, List.toFinset_append, Finset.union_comm]
    rfl

/-- A set has the classes of all that were put in, each once. -/
theorem classes_foldl (all : List Fields) {kept : List Fields}
    (hkept : (kept.map sameAs).Nodup) :
  ((all.foldl (insert h) kept).map sameAs).Nodup
    ∧ ((all.foldl (insert h) kept).map sameAs).toFinset
      = (all.map sameAs).toFinset ∪ (kept.map sameAs).toFinset
  := by
  -- What is kept changes with every configuration that is put in, so any set may be the first.
  induction all generalizing kept with
  | nil =>
      use hkept
      rw [List.map_nil, List.toFinset_nil, Finset.empty_union, List.foldl_nil]
  | cons fields rest ih =>
      obtain ⟨hnodup, hclasses⟩ := ih (nodup_insert h hkept fields)
      use hnodup
      rw [List.foldl_cons, hclasses, toFinset_insert, List.map_cons, List.toFinset_cons,
        Finset.union_insert, Finset.insert_union]

theorem length_gather (all : List Fields) :
  (gather h all).length = (all.map sameAs).toFinset.card
  := by
  have hempty : (([] : List Fields).map sameAs).Nodup := List.nodup_nil
  obtain ⟨hnodup, hclasses⟩ := classes_foldl h all hempty
  rw [gather, ← List.length_map sameAs, ← List.toFinset_card_of_nodup hnodup, hclasses,
    List.map_nil, List.toFinset_nil, Finset.union_empty]

/-- Configurations that are all equal make a set of one. -/
theorem length_gather_eq_one {all : List Fields} (hmem : fields ∈ all)
    (hsame : ∀ other ∈ all, other.isSame fields) :
  (gather h all).length = 1
  := by
  rw [length_gather, Finset.card_eq_one]
  use fields.sameAs
  ext x
  rw [List.mem_toFinset, List.mem_map, Finset.mem_singleton]
  constructor
  · rintro ⟨other, hother, rfl⟩
    apply sameAs_eq_iff.mpr (hsame other hother)
  · rintro rfl
    use fields, hmem

/-- The identity that the configurations of a class share. -/
def commonIdentity : Quotient setoid → Config.Identity :=
  Quotient.lift identity fun _ _ => isSame_iff.mp

@[simp]
theorem commonIdentity_sameAs (fields : Fields) :
  commonIdentity fields.sameAs = fields.identity
  := rfl

theorem commonIdentity_injective :
  Function.Injective commonIdentity
  := by
  intro x y hxy
  induction x, y using Quotient.inductionOn₂ with
  | h fields other => apply Quotient.sound (isSame_iff.mpr hxy)

@[simp]
theorem identity_fields (c : Config) :
  c.fields.identity = c.identity
  := rfl

@[simp]
theorem text_fields (c : Config) :
  c.fields.text = c.text
  := rfl

/-- The set of configurations that are values has one for each of their identities. -/
theorem length_gather_fields (configs : List Config) :
  (gather h (configs.map Config.fields)).length = Config.distinct configs
  := by
  have hidentities : (configs.map Config.identity).eraseDups.toFinset
      = ((configs.map Config.fields).map sameAs).toFinset.image commonIdentity := by
    ext identity
    simp only [List.mem_toFinset, List.mem_eraseDups, Finset.mem_image, List.mem_map,
      exists_exists_and_eq_and, commonIdentity_sameAs, identity_fields]
  rw [length_gather, Config.distinct,
    ← List.toFinset_card_of_nodup (Children.nodup_eraseDups _), hidentities,
    Finset.card_image_of_injective _ commonIdentity_injective]

/-- Equality of configurations is equality of their identities, and so an equivalence. Equal
configurations answer any requests in order with the same attempts, and stay equal throughout, with
the same hash and the same text. A set has as many configurations as there are classes among those
put in, whatever the hasher and whatever the order. -/
theorem isSame_congruence [DomainNames] :
  (∀ fields other : Fields, fields.isSame other ↔ fields.identity = other.identity)
    ∧ Equivalence (fun fields other : Fields => (fields.isSame other : Prop))
    ∧ (∀ fields other : Fields, fields.isSame other → ∀ requests : List Request,
        List.Forall₂ AnswerSame (fields.answers requests) (other.answers requests))
    ∧ ∀ {σ : Type} (h : Hasher σ) (all : List Fields),
        (gather h all).length = (all.map (Quotient.mk setoid)).toFinset.card
          ∧ ∀ others : List Fields, others.Perm all →
            (gather h others).length = (gather h all).length
  := by
  use fun _ _ => isSame_iff, isSame_equivalence,
    fun _ _ hsame requests => answers_same hsame requests
  intro σ h all
  use length_gather h all
  intro others hperm
  rw [length_gather, length_gather, List.toFinset_eq_of_perm _ _ (hperm.map sameAs)]

attribute [local instance] DomainNames.asciiOnly in
/-- Two spellings of a URL, of which one comes with a setting of the pool, and a URL that is set
on both later on. -/
theorem isSame_congruence_small :
  let fields := (setUrl "postgres://h/d" {}).2
  let other := (setUrl "jdbc:postgresql://h/d#top" { poolDisabled := true }).2
  let requests : List Request :=
    [.change (.property "max-connection" "-1"), .change (.url "mysql://bob:pw@h:99/e"), .validate]
  let length : Hasher Nat :=
    ⟨0, fun n _ => n, fun n text => n + text.length, fun n _ => n + 1, UInt64.ofNat⟩
  fields ≠ other
    ∧ fields.isSame other
    ∧ List.Forall₂ AnswerSame (fields.answers requests) (other.answers requests)
    ∧ ((other.answers requests).map fun made => (made.1.result, made.2.password))
      = [(.error (.invalidValue "max-connection" (.notUnsigned "-1")), ""), (.ok (), "pw"),
        (.ok (), "pw")]
    ∧ [other, {}, fields].Perm [fields, other, {}]
    ∧ (gather length [other, {}, fields]).length = (gather length [fields, other, {}]).length
    ∧ (gather length [fields, other, {}]).length = 2
  := by
  intro fields other requests length
  obtain ⟨-, -, hanswers, hgather⟩ := isSame_congruence
  have hsame : fields.isSame other := by decide +kernel
  have hperm : ([other, {}] ++ [fields]).Perm ([fields] ++ [other, {}]) := List.perm_append_comm
  use by decide +kernel, hsame, hanswers fields other hsame requests, by decide +kernel, hperm,
    (hgather length _).2 _ hperm
  decide +kernel

end Fields

end Provision
