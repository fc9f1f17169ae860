import ModelMeld.Spec.Collections

/-!
# Collections of different tenants

A short id is its own collection name, with every dot read as an underscore; a
long id is cut and given a digest. So two tenants have collections of their own
exactly when their ids stay apart under that reading (`collections_apart_iff`).
-/

namespace ModelMeld

variable {digest : ShortDigest} {a b : String}

/-- An id that is a name of its own. -/
def ShortId (tenantId : String) : Prop := tenantId.length ≤ 52

instance (tenantId : String) : Decidable (ShortId tenantId) :=
  inferInstanceAs (Decidable (tenantId.length ≤ 52))

/-- The name of a long id, less the prefix. -/
def digested (digest : ShortDigest) (tenantId : String) : String :=
  sliceTo (safeText tenantId) 39 ++ "_" ++ digest.digits tenantId

/-- The name of an id, less the prefix. -/
def nameBody (digest : ShortDigest) (tenantId : String) : String :=
  if ShortId tenantId then safeText tenantId else digested digest tenantId

/-- Two ids that no collection can be taken for: short ones differ where a dot counts as an
underscore, and a short one is not what a long one is cut to. -/
def StayApart (digest : ShortDigest) (a b : String) : Prop :=
  if ShortId a then
    if ShortId b then safeText a ≠ safeText b else safeText a ≠ digested digest b
  else if ShortId b then digested digest a ≠ safeText b
  else True

@[simp] theorem safeText_length (tenantId : String) : (safeText tenantId).length = tenantId.length := by
  simp [safeText, ← String.length_toList]

theorem tenantCollectionName_eq (h : validTenantId a = true) :
    tenantCollectionName digest a = some (qdrantCollectionPrefix ++ nameBody digest a) := by
  have hprefix : (qdrantCollectionPrefix.length : ℤ) = 8 := rfl
  unfold tenantCollectionName nameBody qdrantMaxNameLen
  rw [if_pos h]
  simp only [safeText_length, digest.length_digits, hprefix]
  by_cases hshort : ShortId a
  · have hlen : a.length ≤ 52 := hshort
    rw [if_pos hshort, if_pos (by omega)]
  · have hlen : ¬ a.length ≤ 52 := hshort
    rw [if_neg hshort, if_neg (by omega)]
    simp only [digested, String.append_assoc]
    rfl

/-- The names of long ids end with their digests. -/
theorem digests_eq_of_digested_eq (h : digested digest a = digested digest b) :
    digest.digits a = digest.digits b := by
  have hlists := congrArg String.toList h
  simp only [digested, String.toList_append] at hlists
  have hlength : (digest.digits a).toList.length = (digest.digits b).toList.length := by
    rw [String.length_toList, String.length_toList, digest.length_digits, digest.length_digits]
  exact String.toList_inj.mp (List.append_inj' hlists hlength).2

theorem nameBody_ne_iff (hdigest : digest.digits a ≠ digest.digits b) :
    nameBody digest a ≠ nameBody digest b ↔ StayApart digest a b := by
  unfold nameBody StayApart
  by_cases ha : ShortId a
  · by_cases hb : ShortId b
    · simp only [if_pos ha, if_pos hb]
    · simp only [if_pos ha, if_neg hb]
  · by_cases hb : ShortId b
    · simp only [if_neg ha, if_pos hb]
    · simp only [if_neg ha, if_neg hb, iff_true]
      exact fun h => hdigest (digests_eq_of_digested_eq h)

theorem tenantCollectionName_ne_iff (ha : validTenantId a = true) (hb : validTenantId b = true)
    (hdigest : digest.digits a ≠ digest.digits b) :
    tenantCollectionName digest a ≠ tenantCollectionName digest b ↔ StayApart digest a b := by
  rw [← nameBody_ne_iff hdigest, tenantCollectionName_eq ha, tenantCollectionName_eq hb]
  simp only [ne_eq, Option.some.injEq, String.append_right_inj]

/-! ## Vector stores -/

/-- Two tenants neither share a collection nor a directory. -/
def NeverShare (x y : VectorStoreConfig) : Prop :=
  x.collectionName ≠ y.collectionName ∧ ∀ path ∈ x.path, path ∉ y.path

theorem pathJoin_inj {path name name' : String} (h : pathJoin path name = pathJoin path name') :
    name = name' := by
  unfold pathJoin at h
  split_ifs at h
  · exact (String.append_right_inj _).mp h
  · exact (String.append_right_inj _).mp h

theorem vectorStoreConfig_collection {settings : Mem0Settings} {x : VectorStoreConfig}
    (h : x ∈ vectorStoreConfig digest settings a) :
    tenantCollectionName digest a = some x.collectionName := by
  obtain ⟨collection, hname, rfl⟩ := Option.map_eq_some_iff.mp h
  rw [hname]
  split_ifs <;> rfl

theorem vectorStoreConfig_path {settings : Mem0Settings} {x : VectorStoreConfig} {path : String}
    (h : x ∈ vectorStoreConfig digest settings a) (hpath : path ∈ x.path) :
    ∃ base ∈ settings.vectorStorePath, path = pathJoin base x.collectionName := by
  obtain ⟨collection, hname, rfl⟩ := Option.map_eq_some_iff.mp h
  split_ifs at hpath ⊢
  · cases hpath
  · cases hpath
  · obtain ⟨base, hbase, rfl⟩ := Option.map_eq_some_iff.mp hpath
    exact ⟨base, hbase, rfl⟩
  · cases hpath

theorem neverShare_of_names {settings : Mem0Settings} {x y : VectorStoreConfig}
    (hx : x ∈ vectorStoreConfig digest settings a) (hy : y ∈ vectorStoreConfig digest settings b)
    (hne : tenantCollectionName digest a ≠ tenantCollectionName digest b) : NeverShare x y := by
  rw [vectorStoreConfig_collection hx, vectorStoreConfig_collection hy, ne_eq,
    Option.some.injEq] at hne
  refine ⟨hne, fun path hpath hpath' => ?_⟩
  obtain ⟨base, hbase, rfl⟩ := vectorStoreConfig_path hx hpath
  obtain ⟨base', hbase', heq⟩ := vectorStoreConfig_path hy hpath'
  have hsame : base = base' := Option.mem_unique hbase hbase'
  subst hsame
  exact hne (pathJoin_inj heq)

/-- **Two tenants whose digests differ have collections and directories of their own exactly when
their ids stay apart.** -/
theorem collections_apart_iff (digest : ShortDigest) (settings : Mem0Settings) (a b : String)
    (ha : validTenantId a = true) (hb : validTenantId b = true)
    (hdigest : digest.digits a ≠ digest.digits b) :
    (tenantCollectionName digest a ≠ tenantCollectionName digest b ∧
      ∀ x ∈ vectorStoreConfig digest settings a, ∀ y ∈ vectorStoreConfig digest settings b,
        NeverShare x y) ↔ StayApart digest a b := by
  rw [← tenantCollectionName_ne_iff ha hb hdigest]
  exact ⟨fun h => h.1, fun h => ⟨h, fun x hx y hy => neverShare_of_names hx hy h⟩⟩

/-- A digest that tells the two ids apart, as the real one does. -/
def lastTwelve : ShortDigest where
  digits text := String.ofList ((text.toList.reverse ++ List.replicate 12 '0').take 12)
  length_digits text := by simp [← String.length_toList]

theorem collections_apart_iff_hyphen :
    (tenantCollectionName lastTwelve "a-b" ≠ tenantCollectionName lastTwelve "a_b" ∧
      ∀ x ∈ vectorStoreConfig lastTwelve { vectorStorePath := some "/var/lib/mem0" } "a-b",
        ∀ y ∈ vectorStoreConfig lastTwelve { vectorStorePath := some "/var/lib/mem0" } "a_b",
          NeverShare x y) ↔ StayApart lastTwelve "a-b" "a_b" :=
  collections_apart_iff lastTwelve { vectorStorePath := some "/var/lib/mem0" } "a-b" "a_b"
    (by decide) (by decide) (by decide)

/-- The tenants `a.b` and `a_b` get one collection. -/
theorem dotted_tenants_collide :
    ¬ ∀ (digest : ShortDigest) (a b : String), validTenantId a = true → validTenantId b = true →
      a ≠ b → digest.digits a ≠ digest.digits b →
        tenantCollectionName digest a ≠ tenantCollectionName digest b := by
  intro h
  exact h lastTwelve "a.b" "a_b" (by decide) (by decide) (by decide) (by decide) (by decide)

end ModelMeld
