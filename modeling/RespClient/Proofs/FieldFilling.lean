import RespClient.Proofs.Exchanges
import RespClient.Proofs.FieldMaps
import RespClient.Proofs.Shapes

set_option autoImplicit false

namespace RespClient

def Fields.values (fields : Fields) : List Bytes := fields.entries.map Prod.snd

namespace Call
variable (fields : Fields)

theorem fill_fields_no_array (reply : Reply) (failure : Failure) (other : reply.kind ≠ .array)
    (rejects : Rejects [.array] reply failure) : fillFields fields reply = (fields, .error failure) := by
  have untaken := Shape.array_untaken reply other
  rw [fillFields, Shape.read_rejected Shape.array reply failure rejects untaken]

theorem fill_fields_miscounted (items : List Reply) (counted : items.length ≠ fields.size) :
    fillFields fields (.array items) = (fields, .error (.wrongCount fields.size items.length)) := by
  exact if_neg counted

theorem fill_fields_counted (items : List Reply) (counted : items.length = fields.size) :
    fillFields fields (.array items) = fields.fill fieldValue items := by
  exact if_pos counted

theorem fill_fields_all (items : List Reply) (values : List Bytes)
    (all : List.Forall₂ Reply.Holds items values) (counted : items.length = fields.size) :
    (fillFields fields (.array items)).1.entries = fields.names.zip values ∧
      (fillFields fields (.array items)).2 = .ok () := by
  have filled := Fields.fill_entries_all fieldValue items values fields.entries
    (found_all field_value_recognizes items values all) counted
  rw [fill_fields_counted fields items counted]
  exact ⟨congrArg Prod.fst filled, congrArg Prod.snd filled⟩

theorem fill_fields_stopped (front back : List Reply) (odd : Reply) (values : List Bytes)
    (failure : Failure) (all : List.Forall₂ Reply.Holds front values)
    (unheld : ∀ value, ¬ Reply.Holds odd value)
    (rejects : Rejects [.bulk, .nil] odd failure)
    (counted : (front ++ odd :: back).length = fields.size) :
    (fillFields fields (.array (front ++ odd :: back))).1.entries =
        fields.names.zip values ++ fields.entries.drop front.length ∧
      (fillFields fields (.array (front ++ odd :: back))).2 = .error failure := by
  have filled := Fields.fill_entries_stopped fieldValue front back odd values failure fields.entries
    (found_all field_value_recognizes front values all)
    (field_value_recognizes.rejected odd failure unheld rejects) counted
  rw [fill_fields_counted fields _ counted]
  exact ⟨congrArg Prod.fst filled, congrArg Prod.snd filled⟩

theorem fill_fields_names (reply : Reply) : (fillFields fields reply).1.names = fields.names := by
  unfold fillFields
  split
  · rfl
  · split
    · exact Fields.fill_entries_names fieldValue fields.entries _
    · rfl

end Call

namespace FieldFilling

structure Filled (fields : Fields) (outcome : Except Failure Reply) (response : Response) : Prop where
  names : response.fields.names = fields.names
  unreached : ∀ failure, outcome = .error failure →
    failure.fromConnection = true ∧ response = ⟨.error failure, fields⟩
  refused : ∀ reply, outcome = .ok reply → reply.kind ≠ .array →
    ∃ failure, Rejects [.array] reply failure ∧ response = ⟨.error failure, fields⟩
  miscounted : ∀ items, outcome = .ok (.array items) → items.length ≠ fields.size →
    response = ⟨.error (.wrongCount fields.size items.length), fields⟩
  stopped : ∀ front values odd back, outcome = .ok (.array (front ++ odd :: back)) →
    (front ++ odd :: back).length = fields.size → List.Forall₂ Reply.Holds front values →
    (∀ value, ¬ Reply.Holds odd value) →
      (∃ failure, Rejects [.bulk, .nil] odd failure ∧ response.answer = .error failure) ∧
        response.fields.values = values ++ fields.values.drop front.length
  filled : ∀ items values, outcome = .ok (.array items) → items.length = fields.size →
    List.Forall₂ Reply.Holds items values →
      response.answer = .ok .done ∧ response.fields.values = values

theorem zipped_values (fields : Fields) (values : List Bytes) (room : values.length ≤ fields.size) :
    (fields.names.zip values).map Prod.snd = values := by
  refine List.map_snd_zip ?_
  rwa [Fields.names, List.length_map]

theorem respond_filled (key : Bytes) (fields : Fields) (outcome : Except Failure Reply)
    (blamed : ∀ failure, outcome = .error failure → failure.fromConnection = true) :
    Filled fields outcome ((Call.hget key fields).respond outcome) := by
  constructor
  case names =>
    cases outcome with
    | error failure => rfl
    | ok reply => exact Call.fill_fields_names fields reply
  case unreached =>
    rintro failure rfl
    exact ⟨blamed failure rfl, rfl⟩
  case refused =>
    rintro reply rfl other
    obtain ⟨failure, rejects⟩ := rejection_exists [.array] reply
    refine ⟨failure, rejects, ?_⟩
    simp only [Call.respond, Call.answer, Call.filled,
      Call.fill_fields_no_array fields reply failure other rejects, Except.map]
  case miscounted =>
    rintro items rfl counted
    simp only [Call.respond, Call.answer, Call.filled,
      Call.fill_fields_miscounted fields items counted, Except.map]
  case stopped =>
    rintro front values odd back rfl counted all unheld
    obtain ⟨failure, rejects⟩ := rejection_exists [.bulk, .nil] odd
    obtain ⟨entries, answer⟩ :=
      Call.fill_fields_stopped fields front back odd values failure all unheld rejects counted
    have room : values.length ≤ fields.size := by
      rw [← all.length_eq, ← counted, List.length_append]
      omega
    refine ⟨⟨failure, rejects, ?_⟩, ?_⟩
    · simp only [Call.respond, Call.answer, answer, Except.map]
    · simp only [Call.respond, Call.filled, Fields.values, entries]
      rw [List.map_append, zipped_values fields values room, List.map_drop]
  case filled =>
    rintro items values rfl counted all
    obtain ⟨entries, answer⟩ := Call.fill_fields_all fields items values all counted
    have room : values.length ≤ fields.size := Nat.le_of_eq (all.length_eq.symm.trans counted)
    refine ⟨?_, ?_⟩
    · simp only [Call.respond, Call.answer, answer, Except.map]
    · simp only [Call.respond, Call.filled, Fields.values, entries]
      exact zipped_values fields values room

theorem exchange_blamed {σ κ : Type} (link : Link σ κ) (command : Command) (session : Session σ κ)
    (failure : Failure) (failed : (session.exchange link command).reply = .error failure) :
    failure.fromConnection = true := by
  have exchanges := Session.exchange_cases link command session
  generalize session.exchange link command = result at exchanges failed
  cases exchanges with
  | unreachable =>
      cases failed
      rfl
  | broken =>
      cases failed
      rfl
  | replied => cases failed

/-- Values are filled in up to the first element that tells none, and names never change. -/
theorem hget_fills_in_place {σ κ : Type} (link : Link σ κ) (session : Session σ κ) (now : Instant)
    (key : Bytes) (fields : Fields) :
    ∃ command, (Call.hget key fields).command now = .ok command ∧
      Filled fields (session.exchange link command).reply
        (session.take link ⟨now, .call (.hget key fields)⟩).response := by
  refine ⟨_, rfl, ?_⟩
  rw [Session.take_call now _ _ rfl]
  exact respond_filled key fields _ (exchange_blamed link _ session)

def askedFields : Fields := Fields.ofList [([97], [1]), ([98], [2]), ([99], [3])]

def brokenOffSession : Session Script Unit where
  client := { address := ⟨"cache", 6379⟩, connectTimeout := .ofSeconds 2 }
  network := { replies := [.ok (.array [.bulk [9], .error "ERR inner", .nil])] }

theorem filling_broken_off :
    (brokenOffSession.take Script.link
        ⟨⟨0⟩, .call (.hget [104] askedFields)⟩).response.fields.values = [[9], [2], [3]] := by
  obtain ⟨command, _, filled⟩ :=
    hget_fills_in_place Script.link brokenOffSession ⟨0⟩ [104] askedFields
  obtain ⟨_, values⟩ := filled.stopped [.bulk [9]] [[9]] (.error "ERR inner") [.nil] rfl rfl
    (.cons .bulk .nil) fun _ held => nomatch held
  exact values.trans rfl

end FieldFilling
end RespClient
