import ModelMeld.Proof.SortedJson
import ModelMeld.Spec.SqlStore

/-!
# The documents of the SQL store

Every row is read back from the document it is written as, and from the text of
the document, whose keys are sorted: turns, facts and summaries as they were
(`decodeTurn_payload` and its siblings), a session with its metadata in another
order (`decodeSession_payload`).
-/

namespace ModelMeld

/-! ## Documents whose keys are sorted -/

section Payload

variable {data : JsonObj} (hnd : (data.map Prod.fst).Nodup) (key : String)
include hnd

theorem get?_payload : (payloadJson data).get? key = (data.get? key).map Json.sortKeys :=
  Json.lookup_sortFields hnd key

theorem text_payload : (payloadJson data).text key = data.text key := by
  unfold JsonObj.text
  rw [get?_payload hnd]
  cases data.get? key with
  | none => rfl
  | some value => cases value <;> rfl

theorem optionalText_payload : (payloadJson data).optionalText key = data.optionalText key := by
  unfold JsonObj.optionalText
  rw [get?_payload hnd]
  cases data.get? key with
  | none => rfl
  | some value => cases value <;> rfl

theorem integer_payload : (payloadJson data).integer key = data.integer key := by
  unfold JsonObj.integer
  rw [get?_payload hnd]
  cases data.get? key with
  | none => rfl
  | some value => cases value <;> rfl

theorem number_payload : (payloadJson data).number key = data.number key := by
  unfold JsonObj.number
  rw [get?_payload hnd]
  cases data.get? key with
  | none => rfl
  | some value => cases value <;> rfl

theorem datetime_payload (iso : IsoFormat) :
    (payloadJson data).datetime key iso = data.datetime key iso := by
  unfold JsonObj.datetime
  rw [text_payload hnd]

end Payload

/-! ## Rows -/

variable (iso : IsoFormat)

@[simp] theorem datetime_isoformat {data : JsonObj} {key : String} {t : ℤ}
    (h : data.text key = some (iso.isoformat t)) : data.datetime key iso = some t := by
  unfold JsonObj.datetime
  rw [h, Option.bind_some, iso.fromisoformat_isoformat]

theorem role_ofValue (role : Role) : Role.ofValue role.value = some role := by
  cases role <;> decide

theorem optionalText_ofText {data : JsonObj} {key : String} {text : Option String}
    (h : data.get? key = some (.ofText text)) : data.optionalText key = some text := by
  unfold JsonObj.optionalText
  rw [h]
  cases text <;> rfl

theorem decodeTurn_data (t : MemoryTurn) : decodeTurn iso (t.data iso) = some t := by
  have hrole : ((t.data iso).text "role").bind Role.ofValue = some t.role := role_ofValue t.role
  have hmodel : (t.data iso).optionalText "model_used" = some t.modelUsed := optionalText_ofText rfl
  have htime : (t.data iso).datetime "timestamp" iso = some t.timestamp :=
    datetime_isoformat iso rfl
  unfold decodeTurn
  rw [hrole, hmodel, htime]
  rfl

theorem decodeTurn_payload (t : MemoryTurn) :
    decodeTurn iso (payloadJson (t.data iso)) = some t := by
  have hnd : ((t.data iso).map Prod.fst).Nodup := by simp [MemoryTurn.data]
  rw [← decodeTurn_data iso t]
  unfold decodeTurn
  simp only [text_payload hnd, optionalText_payload hnd, integer_payload hnd, datetime_payload hnd]

theorem decodeFact_data (f : MemoryFact) : decodeFact iso (f.data iso) = some f := by
  have htime : (f.data iso).datetime "timestamp" iso = some f.timestamp :=
    datetime_isoformat iso rfl
  unfold decodeFact
  rw [htime]
  rfl

theorem decodeFact_payload (f : MemoryFact) :
    decodeFact iso (payloadJson (f.data iso)) = some f := by
  have hnd : ((f.data iso).map Prod.fst).Nodup := by simp [MemoryFact.data]
  rw [← decodeFact_data iso f]
  unfold decodeFact
  simp only [text_payload hnd, number_payload hnd, datetime_payload hnd]

theorem decodeSummary_data (s : MemorySummary) : decodeSummary iso (s.data iso) = some s := by
  have hmark : (s.data iso).optionalText "last_applied_turn_id" = some s.lastAppliedTurnId :=
    optionalText_ofText rfl
  have hmodel : (s.data iso).optionalText "source_model" = some s.sourceModel :=
    optionalText_ofText rfl
  have hcreated : (s.data iso).datetime "created_at" iso = some s.createdAt :=
    datetime_isoformat iso rfl
  have hupdated : (s.data iso).datetime "updated_at" iso = some s.updatedAt :=
    datetime_isoformat iso rfl
  unfold decodeSummary
  rw [hmark, hmodel, hcreated, hupdated]
  rfl

theorem decodeSummary_payload (s : MemorySummary) :
    decodeSummary iso (payloadJson (s.data iso)) = some s := by
  have hnd : ((s.data iso).map Prod.fst).Nodup := by simp [MemorySummary.data]
  rw [← decodeSummary_data iso s]
  unfold decodeSummary
  simp only [text_payload hnd, optionalText_payload hnd, integer_payload hnd, datetime_payload hnd]

/-! ### Sessions -/

theorem mapM_textField (ps : List (String × String)) :
    (ps.map (fun p => (p.1, Json.str p.2))).mapM textField = some ps := by
  induction ps with
  | nil => rfl
  | cons p ps ih =>
    rw [List.map_cons, List.mapM_cons, ih]
    rfl

/-- A metadata object whose fields are in another order. -/
theorem metadata_of_perm {data : JsonObj} {fields : List (String × Json)}
    {metadata : OrderedDict String String} (hget : data.get? "metadata" = some (.obj fields))
    (hperm : fields.Perm (metadata.entries.map (fun p => (p.1, Json.str p.2)))) :
    ∃ read, data.metadata = some read ∧ metadata.entries.Perm read.entries := by
  obtain ⟨ps, rfl, hps⟩ : ∃ ps : List (String × String),
      fields = ps.map (fun p => (p.1, Json.str p.2)) ∧ ps.Perm metadata.entries := by
    have hcomp := congrFun (congrFun (List.eq_map_comp_perm
      (fun p : String × String => (p.1, Json.str p.2))) fields) metadata.entries
    exact hcomp.mpr hperm
  refine ⟨OrderedDict.ofPairs ps, ?_, ?_⟩
  · unfold JsonObj.metadata
    rw [hget]
    simp only [mapM_textField, Option.map_some]
  · have hnd : (ps.map Prod.fst).Nodup := (hps.map Prod.fst).nodup_iff.mpr metadata.nodup
    rw [OrderedDict.entries_ofPairs hnd]
    exact hps.symm

/-- Two sessions that differ in the time at most, and in the order of their metadata. -/
structure MemorySession.Alike (s s' : MemorySession) : Prop where
  sessionId : s.sessionId = s'.sessionId
  tenantId : s.tenantId = s'.tenantId
  userId : s.userId = s'.userId
  metadata : s.metadata.entries.Perm s'.metadata.entries

theorem decodeSession_of_metadata (s : MemorySession) (data : JsonObj)
    {metadata : OrderedDict String String} (hsession : data.text "session_id" = some s.sessionId)
    (htenant : data.text "tenant_id" = some s.tenantId)
    (huser : data.optionalText "user_id" = some s.userId)
    (hcreated : data.datetime "created_at" iso = some s.createdAt)
    (hmetadata : data.metadata = some metadata) :
    decodeSession iso data = some { s with metadata := metadata } := by
  unfold decodeSession
  rw [hsession, htenant, huser, hcreated, hmetadata]
  rfl

theorem decodeSession_data (s : MemorySession) :
    ∃ s', decodeSession iso (s.data iso) = some s' ∧ s.Alike s' := by
  obtain ⟨metadata, hread, hperm⟩ := metadata_of_perm
    (show (s.data iso).get? "metadata" = some (metadataJson s.metadata) from rfl) (List.Perm.refl _)
  have hdecode := decodeSession_of_metadata iso s (s.data iso) rfl rfl
    (optionalText_ofText rfl) (datetime_isoformat iso rfl) hread
  exact ⟨_, hdecode, rfl, rfl, rfl, hperm⟩

theorem decodeSession_payload (s : MemorySession) :
    ∃ s', decodeSession iso (payloadJson (s.data iso)) = some s' ∧ s.Alike s' := by
  have hnd : ((s.data iso).map Prod.fst).Nodup := by simp [MemorySession.data]
  have hget : (payloadJson (s.data iso)).get? "metadata" = some (metadataJson s.metadata).sortKeys := by
    rw [get?_payload hnd]
    rfl
  have hsorted : (Json.sortFields (s.metadata.entries.map (fun p => (p.1, Json.str p.2)))).Perm
      (s.metadata.entries.map (fun p => (p.1, Json.str p.2))) := by
    have h := Json.sortFields_perm (s.metadata.entries.map (fun p => (p.1, Json.str p.2)))
    rwa [List.map_map] at h
  obtain ⟨metadata, hread, hperm⟩ := metadata_of_perm hget hsorted
  have hdecode := decodeSession_of_metadata iso s (payloadJson (s.data iso))
    (by rw [text_payload hnd]; rfl) (by rw [text_payload hnd]; rfl)
    (by rw [optionalText_payload hnd]; exact optionalText_ofText rfl)
    (by rw [datetime_payload hnd]; exact datetime_isoformat iso rfl) hread
  exact ⟨_, hdecode, rfl, rfl, rfl, hperm⟩

end ModelMeld
