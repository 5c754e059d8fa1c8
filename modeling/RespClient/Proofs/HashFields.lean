import RespClient.Proofs.FieldFilling
import RespClient.Proofs.Serving

set_option autoImplicit false

namespace RespClient.Hashes

theorem insert_all_tokens (pairs : List (Bytes × Bytes)) (hash : Hash) :
    insertAll (tokens pairs) hash = some (insertPairs pairs hash) := by
  induction pairs generalizing hash with
  | nil => rfl
  | cons pair rest ih => exact ih (insert hash pair.1 pair.2)

theorem server_keeps_hashes : KeepsHashes server where
  hmset store key pairs := by
    refine ⟨"OK", ?_⟩
    simp [server, execute, insert_all_tokens]
  hmget store key names := by
    have different : Bytes.ofText "HMGET" ≠ Bytes.ofText "HMSET" := by decide
    simp [server, execute, different]

theorem pairs_inserted (pairs : List (Bytes × Bytes)) (distinct : Fields.Distinct pairs) (hash : Hash)
    (name : Bytes) : insertPairs pairs hash name = (pairs.lookup name).or (hash name) := by
  exact Fields.put_all_lookup insert (fun hash name => hash name) (fun _ _ _ _ => rfl) pairs distinct
    hash name

theorem written_stored (store : Hashes) (key : Bytes) (given : List (Bytes × Bytes))
    (distinct : Fields.Distinct given) (name : Bytes) :
    put store key (insertPairs (Fields.ofList given).entries (store key)) key name =
      (given.lookup name).or (store key name) := by
  have ordered := Fields.distinct_of_ascending _ (Fields.ofList given).ascending
  have found : (Fields.ofList given).entries.lookup name = given.lookup name :=
    Fields.get_of_list given distinct name
  rw [put, if_pos rfl, pairs_inserted _ ordered, found]

theorem value_held (value : Option Bytes) : Reply.Holds (value.elim .nil .bulk) (value.getD []) := by
  cases value with
  | none => exact .nil
  | some data => exact .bulk

theorem bulks_held (hash : Hash) (names : List Bytes) :
    List.Forall₂ Reply.Holds (names.map fun name => (hash name).elim .nil .bulk)
      (names.map fun name => (hash name).getD []) := by
  induction names with
  | nil => exact .nil
  | cons name names ih => exact .cons (value_held (hash name)) ih

theorem fill_fields_aligned (hash : Hash) (fields : Fields) :
    (Call.fillFields fields (bulks hash fields.names)).1.entries =
        fields.entries.map (fun entry => (entry.1, (hash entry.1).getD [])) ∧
      (Call.fillFields fields (bulks hash fields.names)).2 = .ok () := by
  have counted : (fields.names.map fun name => ((hash name).elim .nil .bulk : Reply)).length =
      fields.size := by
    simp [Fields.names, Fields.size]
  obtain ⟨entries, outcome⟩ :=
    Call.fill_fields_all fields _ _ (bulks_held hash fields.names) counted
  refine ⟨entries.trans ?_, outcome⟩
  rw [← List.map_prod_left_eq_zip, Fields.names, List.map_map]
  rfl

theorem hset_parts (key : Bytes) (fields : Fields) (now : Instant) :
    ∃ command, (Call.hset key fields).command now = .ok command ∧
      command.parts = Bytes.ofText "HMSET" :: key :: tokens fields.entries := by
  refine ⟨_, rfl, ?_⟩
  simp [Command.parts, Command.all, Token.bytes, tokens, List.map_flatMap]

theorem hget_parts (key : Bytes) (fields : Fields) (now : Instant) :
    ∃ command, (Call.hget key fields).command now = .ok command ∧
      command.parts = Bytes.ofText "HMGET" :: key :: fields.names := by
  refine ⟨_, rfl, ?_⟩
  simp [Command.parts, Command.all, Token.bytes, Function.comp_def]

section
variable {server : Server Hashes} (keeps : KeepsHashes server) (session : Session Hashes Unit)
  (key : Bytes) (fields : Fields) (now : Instant)
include keeps

theorem hset_taken :
    ∃ command : Command,
      command.parts = Bytes.ofText "HMSET" :: key :: tokens fields.entries ∧
      session.take server.direct ⟨now, .call (.hset key fields)⟩ =
        { response := ⟨.ok .done, fields⟩
          events := session.contact ++ [.sent command]
          session := session.holding (some ())
            (put session.network key (insertPairs fields.entries (session.network key))) } := by
  obtain ⟨command, made, parts⟩ := hset_parts key fields now
  obtain ⟨text, executed⟩ := keeps.hmset session.network key fields.entries
  refine ⟨command, parts, ?_⟩
  rw [server.take_direct session now _ command made, parts, executed]
  rfl

theorem hget_taken :
    ∃ (command : Command) (filled : Fields),
      command.parts = Bytes.ofText "HMGET" :: key :: fields.names ∧
      filled.entries =
        fields.entries.map (fun entry => (entry.1, (session.network key entry.1).getD [])) ∧
      session.take server.direct ⟨now, .call (.hget key fields)⟩ =
        { response := ⟨.ok .done, filled⟩
          events := session.contact ++ [.sent command]
          session := session.holding (some ()) session.network } := by
  obtain ⟨command, made, parts⟩ := hget_parts key fields now
  have executed := keeps.hmget session.network key fields.names
  obtain ⟨filled, outcome⟩ := fill_fields_aligned (session.network key) fields
  refine ⟨command, _, parts, filled, ?_⟩
  rw [server.take_direct session now _ command made, parts, executed]
  simp only [Call.respond, Call.answer, Call.filled, outcome]
  rfl

end

structure Aligned (session : Session Hashes Unit) (key : Bytes) (given asked : List (Bytes × Bytes))
    (writing reading : Step Hashes Unit) : Prop where
  written : writing.response.answer = .ok .done
  read : reading.response.answer = .ok .done
  names : reading.response.fields.names = (Fields.ofList asked).names
  values : ∀ name ∈ reading.response.fields.names, reading.response.fields.get? name =
    some (((given.lookup name).or (session.network key name)).getD [])
  pairsSent : ∃ (command : Command) (pairs : List (Bytes × Bytes)),
    writing.events = session.contact ++ [.sent command] ∧
    command.parts = Bytes.ofText "HMSET" :: key :: tokens pairs ∧
    pairs.Perm given ∧ pairs.Pairwise fun a b => a.1 < b.1
  namesSent : ∃ (command : Command) (names : List Bytes),
    reading.events = [.sent command] ∧
    command.parts = Bytes.ofText "HMGET" :: key :: names ∧
    names.Perm (asked.map Prod.fst) ∧ names.Pairwise (· < ·)

/-- Fields written and read in any order come back under their own names. -/
theorem hash_fields_align (server : Server Hashes) (keeps : KeepsHashes server)
    (session : Session Hashes Unit) (key : Bytes) (given asked : List (Bytes × Bytes))
    (first second : Instant) (distinct : Fields.Distinct given)
    (askedDistinct : Fields.Distinct asked) :
    ∃ writing reading,
      session.play server.direct
          [⟨first, .call (.hset key (Fields.ofList given))⟩,
            ⟨second, .call (.hget key (Fields.ofList asked))⟩] = [writing, reading] ∧
        Aligned session key given asked writing reading := by
  have givenPerm := Fields.of_list_perm given distinct
  have askedPerm := Fields.of_list_perm asked askedDistinct
  obtain ⟨hmset, setParts, written⟩ := hset_taken keeps session key (Fields.ofList given) first
  refine ⟨_, _, rfl, ?_⟩
  rw [written]
  dsimp only
  generalize network : put session.network key
    (insertPairs (Fields.ofList given).entries (session.network key)) = stored
  obtain ⟨hmget, filled, getParts, entries, read⟩ :=
    hget_taken keeps (session.holding (some ()) stored) key (Fields.ofList asked) second
  rw [read]
  have names : filled.names = (Fields.ofList asked).names := by
    simp [Fields.names, entries, Function.comp_def]
  refine ⟨rfl, rfl, names, ?_, ⟨hmset, _, rfl, setParts, givenPerm, (Fields.ofList given).ascending⟩,
    ⟨hmget, _, rfl, getParts, askedPerm.map Prod.fst, ?_⟩⟩
  · intro name member
    have listed : name ∈ (Fields.ofList asked).names := names ▸ member
    have value := Fields.lookup_named (fun name => (stored key name).getD [])
      (Fields.ofList asked).entries name listed
    rw [← written_stored session.network key given distinct name, network]
    exact (congrArg (List.lookup name) entries).trans value
  · exact List.pairwise_map.mpr (Fields.ofList asked).ascending

def scatteredGiven : List (Bytes × Bytes) := [([99], [13, 10]), ([], [0, 255]), ([97], [])]
def scatteredAsked : List (Bytes × Bytes) := [([122], []), ([98], []), ([99], [7])]

def scatteredSession : Session Hashes Unit where
  client := { address := ⟨"::1", 6379⟩, connectTimeout := .ofSeconds 2 }
  network := fun key name => if key = [104] ∧ name = [98] then some [1] else none

theorem scattered_fields_align :
    ∃ writing reading,
      scatteredSession.play server.direct
          [⟨⟨0⟩, .call (.hset [104] (Fields.ofList scatteredGiven))⟩,
            ⟨⟨1⟩, .call (.hget [104] (Fields.ofList scatteredAsked))⟩] = [writing, reading] ∧
        Aligned scatteredSession [104] scatteredGiven scatteredAsked writing reading := by
  exact hash_fields_align server server_keeps_hashes scatteredSession [104] scatteredGiven
    scatteredAsked ⟨0⟩ ⟨1⟩ (by decide) (by decide)

end RespClient.Hashes
