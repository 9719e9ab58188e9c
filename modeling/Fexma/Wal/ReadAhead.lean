import Fexma.Wal.Scan

/-! A reader as the records it still has to give. An open reader of any file gives the
records of its trusted prefix, one a call, and after them none, however often it is asked. -/
namespace Fexma.Wal

open WalReader

variable {config : WalConfig} {payload buffer tail : List UInt8} {payloads : List (List UInt8)}
variable {next offset : ℕ} {reader : WalReader} {file : Option DiskFile}

/-- The records of a file: what its longest beginning that a writer could have written holds. -/
structure Records (config : WalConfig) (file : Option DiskFile) (payloads : List (List UInt8)) :
    Prop where
  loggable : Loggable config payloads
  trusted : ∃ disk tail, file = some disk ∧ disk.bytes = fileImage config payloads ++ tail ∧
    ¬ RecordAhead config (config.firstSequence.toNat + payloads.length) tail

namespace WalReader

/-- The records a reader gives from sequence `next` on. -/
inductive Ahead (config : WalConfig) : ℕ → List (List UInt8) → WalReader → Prop
  | reading {next offset : ℕ} {payloads : List (List UInt8)} {tail : List UInt8}
      (sizes : ∀ payload ∈ payloads, payload.length = config.payloadSize.toNat)
      (sequences : next + payloads.length ≤ 2 ^ 64)
      (stop : ¬ RecordAhead config (next + payloads.length) tail) :
    Ahead config next payloads (reading config next offset
      ((recordFrames config (.ofNat next) payloads).flatten ++ tail))
  | failed {next : ℕ} {reader : WalReader} (opened : reader.isOpen = true)
      (failure : reader.failure ≠ .none) : Ahead config next [] reader

/-- A read leaves the size of the buffer alone. -/
theorem length_readBody {header : RecordHeader}
    (fits : buffer.length = reader.config.payloadSize.toNat) :
    (reader.readBody header buffer).2.1.length = buffer.length := by
  have short : (reader.physicalReader.read reader.config.payloadSize.toNat).2.1.length ≤
      buffer.length := by
    rw [fits]
    unfold PhysicalWalReaderAdapter.read
    dsimp only
    split_ifs
    · exact Nat.zero_le _
    all_goals exact List.length_take_le _ _
  have whole : ((reader.physicalReader.read reader.config.payloadSize.toNat).2.1 ++
      buffer.drop (reader.physicalReader.read reader.config.payloadSize.toNat).2.1.length).length =
      buffer.length := by
    rw [List.length_append, List.length_drop]
    omega
  unfold readBody
  dsimp only
  split_ifs <;> exact whole

theorem length_readNext : (reader.readNext buffer).2.1.length = buffer.length := by
  unfold readNext
  dsimp only
  split_ifs with closed failed size
  all_goals first
    | rfl
    | exact length_readBody (not_not.mp size)

theorem Ahead.within (ahead : Ahead config next (payload :: payloads) reader) :
    payload.length = config.payloadSize.toNat ∧ next + (payload :: payloads).length ≤ 2 ^ 64 := by
  cases ahead with
  | reading sizes sequences stop => exact ⟨sizes payload (by simp), sequences⟩

/-- The next record is read as it is. -/
theorem Ahead.record (readable : Readable config)
    (ahead : Ahead config next (payload :: payloads) reader)
    (fits : buffer.length = config.payloadSize.toNat) : ∃ behind,
    reader.readNext buffer = ({ status := .record, sequence := .ofNat next }, payload, behind) ∧
      behind.nextSequence = .ofNat (min (next + 1) (2 ^ 64 - 1)) ∧
      Ahead config (next + 1) payloads behind := by
  cases ahead with
  | reading sizes sequences stop =>
    rename_i offset tail
    have size : payload.length = config.payloadSize.toNat := sizes payload (by simp)
    rw [List.length_cons] at sequences stop
    have frames : (recordFrames config (.ofNat next) (payload :: payloads)).flatten ++ tail =
        recordFrame config (.ofNat next) payload ++
          ((recordFrames config (.ofNat (next + 1)) payloads).flatten ++ tail) := by
      rw [recordFrames, List.flatten_cons, List.append_assoc, UInt64.ofNat_add, UInt64.ofNat_one]
    have later : ∀ other ∈ payloads, other.length = config.payloadSize.toNat :=
      fun other member => sizes other (List.mem_cons_of_mem _ member)
    have behind : next + 1 + payloads.length = next + (payloads.length + 1) := by omega
    rw [frames, readNext_record readable (by omega) size fits]
    refine ⟨_, rfl, rfl, .reading later ?_ ?_⟩
    · rwa [behind]
    · rwa [behind]

/-- Behind the last record there is none, and none comes. -/
theorem Ahead.none (readable : Readable config) (ahead : Ahead config next [] reader)
    (fits : buffer.length = config.payloadSize.toNat) :
    (reader.readNext buffer).1.status ≠ .record ∧
      Ahead config next [] (reader.readNext buffer).2.2 := by
  have stopped {status : ScanStatus} {at_ : WalReader}
      (stops : Stops (at_.readNext buffer) status) :
      (at_.readNext buffer).1.status ≠ .record ∧
        Ahead config next [] (at_.readNext buffer).2.2 := by
    obtain ⟨error, buffer', behind, answer, failure, -, opened, same⟩ := stops
    rw [answer]
    exact ⟨nofun, .failed opened (same ▸ failure)⟩
  cases ahead with
  | failed opened failure =>
    rw [readNext_failed opened failure]
    exact ⟨nofun, .failed opened failure⟩
  | reading sizes sequences stop =>
    rename_i offset tail
    have rest : (recordFrames config (.ofNat next) []).flatten ++ tail = tail := rfl
    rw [List.length_nil, Nat.add_zero] at sequences stop
    rw [rest]
    have cases := @readNext_cases config tail next offset buffer readable sequences fits
    rcases cases with empty | another | torn | stops
    · rw [empty, readNext_end fits]
      exact ⟨nofun, @Ahead.reading config next offset [] [] sizes sequences (by rwa [empty] at stop)⟩
    · exact absurd another stop
    · exact stopped (readNext_torn readable fits torn)
    · exact stopped stops

/-- There is one way to read a reader to its end. -/
theorem Ahead.unique {others : List (List UInt8)} (readable : Readable config)
    (ahead : Ahead config next payloads reader) (ahead' : Ahead config next others reader) :
    payloads = others := by
  have fits : (List.replicate config.payloadSize.toNat (0 : UInt8)).length =
      config.payloadSize.toNat := List.length_replicate
  induction payloads generalizing next others reader with
  | nil =>
    cases others with
    | nil => rfl
    | cons other others =>
      obtain ⟨failed, -⟩ := ahead.none readable fits
      obtain ⟨behind, read, -⟩ := ahead'.record readable fits
      rw [read] at failed
      exact absurd rfl failed
  | cons payload payloads ih =>
    obtain ⟨behind, read, -, later⟩ := ahead.record readable fits
    cases others with
    | nil =>
      obtain ⟨failed, -⟩ := ahead'.none readable fits
      rw [read] at failed
      exact absurd rfl failed
    | cons other others =>
      obtain ⟨behind', read', -, later'⟩ := ahead'.record readable fits
      rw [read] at read'
      obtain ⟨rfl, rfl⟩ := Prod.mk.inj (Prod.mk.inj read').2
      rw [ih later later']

end WalReader

/-- A reader that is opened on a file has its records ahead. -/
theorem Records.opened (readable : Readable config) (records : Records config file payloads) :
    ∃ reader, ({} : WalReader).open_ file config = ({ status := .ok }, reader) ∧
      reader.nextSequence = config.firstSequence ∧
      Ahead config config.firstSequence.toNat payloads reader := by
  obtain ⟨loggable, disk, tail, rfl, content, stop⟩ := records
  have opened := @open_fileHead config _ {} disk readable rfl
    (content.trans (by rw [fileImage, List.append_assoc]))
  have first : UInt64.ofNat config.firstSequence.toNat = config.firstSequence := UInt64.ofNat_toNat
  have ahead := @Ahead.reading config config.firstSequence.toNat (recordsOffset config).toNat
    payloads tail loggable.sizes loggable.sequences stop
  rw [first] at ahead
  exact ⟨_, opened, by rw [reading_first], ahead⟩

theorem Records.unique {others : List (List UInt8)} (readable : Readable config)
    (records : Records config file payloads) (records' : Records config file others) :
    payloads = others := by
  obtain ⟨reader, opened, -, ahead⟩ := records.opened readable
  obtain ⟨reader', opened', -, ahead'⟩ := records'.opened readable
  obtain rfl := (Prod.mk.inj (opened.symm.trans opened')).2
  exact ahead.unique readable ahead'

/-- Every file that is accepted has records. -/
theorem exists_records_of_open (accepted : (({} : WalReader).open_ file config).1.status = .ok) :
    Readable config ∧ ∃ payloads, Records config file payloads := by
  have readable : Readable config := by
    by_contra unreadable
    have refused : ¬ validReaderConfig config = true := fun valid =>
      unreadable (validReader_iff.mp valid)
    simp [open_, refused] at accepted
  refine ⟨readable, ?_⟩
  cases file with
  | none =>
    unfold open_ at accepted
    split_ifs at accepted
  | some disk =>
    have head : fileHead config <+: disk.bytes := by
      by_contra other
      obtain ⟨error, -, -, refused⟩ := @open_refused config {} disk readable rfl other
      rw [refused] at accepted
      cases accepted
    obtain ⟨payloads, tail, content, loggable, stop⟩ := exists_image head
    exact ⟨payloads, loggable, disk, tail, rfl, content, stop⟩

/-- The records of a complete log. -/
theorem records_image {disk : DiskFile} (loggable : Loggable config payloads)
    (content : disk.bytes = fileImage config payloads) : Records config (some disk) payloads := by
  refine ⟨loggable, disk, [], rfl, content.trans (List.append_nil _).symm, ?_⟩
  rintro ⟨payload, more, -, -, empty⟩
  exact recordFrame_ne_nil (List.append_eq_nil_iff.mp empty.symm).1

end Fexma.Wal
