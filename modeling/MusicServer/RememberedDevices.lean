/-
# Remembered devices and their backup

`devices.rs` of the application and of the storage: the devices an operator names, and the document
they are written to and read from.  The exporter writes what the table holds; the importer has
limits of its own.  A backup can be read back exactly where the table keeps to them
(`backup_roundTrips_iff`): saving lets a name have control characters and counts nothing, and an
imported time that reads as a number is not a text any more.
-/
import MusicServer.LibraryPath
import MusicServer.MapInserts
import MusicServer.PlaybackState
import MusicServer.Reduce

namespace MusicServer.Devices

/-! ## The source -/

structure RememberedDevice where
  clientId : String
  name : String
  isOutput : Bool
  addedAt : Option String
  deriving DecidableEq

/-- A value of the column `added_at`. -/
inductive SqlValue where
  | null
  | text (value : String)
  | number (value : ℚ)
  deriving DecidableEq

/-- What the column, which has numeric affinity, keeps of a text: a number if it reads as one. -/
structure NumericAffinity where
  store : String → SqlValue
  text : ∀ value kept, store value = .text kept → kept = value
  notNull : ∀ value, store value ≠ .null

/-- `strftime('%Y-%m-%dT%H:%M:%SZ', 'now')`. -/
structure Timestamp (affinity : NumericAffinity) where
  value : String
  kept : affinity.store value = .text value
  length : value.length = 20
  printable : value.toList.any isControl = false

/-- A row of `remembered_devices` under its client id. -/
structure DeviceRow where
  name : String
  isOutput : Bool
  addedAt : SqlValue
  deriving DecidableEq

abbrev DeviceTable := BTreeMap String DeviceRow

inductive StorageError where
  | columnDecode
  | invalidDeviceTransfer (reason : String)
  deriving DecidableEq

inductive DeviceServiceError where
  | invalidClientId
  | invalidName
  | dependency (operation : String) (source : StorageError)
  deriving DecidableEq

def storedDeviceFromRow (entry : String × DeviceRow) : Except StorageError RememberedDevice :=
  match entry.2.addedAt with
  | .null => .ok ⟨entry.1, entry.2.name, entry.2.isOutput, none⟩
  | .text value => .ok ⟨entry.1, entry.2.name, entry.2.isOutput, some value⟩
  | .number _ => .error .columnDecode

def bounded (limit : ℕ) (value : String) : Bool := 1 ≤ value.length && value.length ≤ limit

def validateClientId (clientId : String) : Except DeviceServiceError Unit :=
  if !bounded 64 clientId || clientId.toList.any isControl then .error .invalidClientId else .ok ()

section Source

variable {affinity : NumericAffinity}

/-- A row that cannot be read back rolls the transaction back. -/
def upsertDevice (now : Timestamp affinity) (clientId name : String) (isOutput : Bool)
    (table : DeviceTable) : Except StorageError RememberedDevice × DeviceTable :=
  let addedAt := (table[clientId]?.map (·.addedAt)).getD (affinity.store now.value)
  let row : DeviceRow := ⟨name, isOutput, addedAt⟩
  match storedDeviceFromRow (clientId, row) with
  | .error e => (.error e, table)
  | .ok device => (.ok device, table.insert clientId row)

def save (now : Timestamp affinity) (clientId name : String) (isOutput : Bool)
    (table : DeviceTable) : Except DeviceServiceError RememberedDevice × DeviceTable :=
  match validateClientId clientId with
  | .error e => (.error e, table)
  | .ok _ =>
    if !bounded 128 name then (.error .invalidName, table)
    else
      let (result, table) := upsertDevice now clientId name isOutput table
      (result.mapError (.dependency "device save"), table)

def forget (clientId : String) (table : DeviceTable) :
    Except DeviceServiceError Bool × DeviceTable :=
  match validateClientId clientId with
  | .error e => (.error e, table)
  | .ok _ => (.ok (table.contains clientId), table.erase clientId)

structure DeviceTransferDocument where
  schemaVersion : String
  devices : List RememberedDevice
  deriving DecidableEq

/-- The reading and the writing of JSON texts. -/
structure TransferCodec where
  toVecPretty : DeviceTransferDocument → List UInt8
  fromSlice : List UInt8 → Option DeviceTransferDocument

def maxTransferFileBytes : ℕ := 4 * 1024 * 1024
def maxTransferDeviceCount : ℕ := 4096
def deviceTransferSchema : String := "remembered-devices/v1"

/-- The document, with a line break at its end. -/
def TransferCodec.transferBytes (codec : TransferCodec) (devices : List RememberedDevice) :
    List UInt8 :=
  codec.toVecPretty ⟨deviceTransferSchema, devices⟩ ++ [10]

/-- The number of exported devices and the file. -/
def exportRememberedDevices (codec : TransferCodec) (table : DeviceTable) :
    Except StorageError (ℕ × List UInt8) := do
  let devices ← table.toList.mapM storedDeviceFromRow
  return (devices.length, codec.transferBytes devices)

inductive TransferInput where
  | irregular
  | file (bytes : List UInt8)

/-- One record after the other; `clientIds` are those before it. -/
def checkRecords (clientIds : List String) : List RememberedDevice → Except StorageError Unit
  | [] => .ok ()
  | record :: rest =>
    if !bounded 64 record.clientId || record.clientId.toList.any isControl then
      .error (.invalidDeviceTransfer "client_id must contain 1 to 64 printable characters")
    else if record.clientId ∈ clientIds then
      .error (.invalidDeviceTransfer "client_id values must be unique")
    else if !bounded 128 record.name || record.name.toList.any isControl then
      .error (.invalidDeviceTransfer "name must contain 1 to 128 printable characters")
    else if record.addedAt.any fun addedAt =>
        !bounded 64 addedAt || addedAt.toList.any isControl then
      .error (.invalidDeviceTransfer "added_at must be a bounded printable timestamp")
    else checkRecords (record.clientId :: clientIds) rest

def readTransferFile (codec : TransferCodec) (input : TransferInput) :
    Except StorageError (List RememberedDevice) :=
  match input with
  | .irregular => .error (.invalidDeviceTransfer "input must be a regular non-symlink file")
  | .file bytes =>
    if maxTransferFileBytes < bytes.length then
      .error (.invalidDeviceTransfer "input exceeds the four MiB limit")
    else
      match codec.fromSlice bytes with
      | none => .error (.invalidDeviceTransfer "document is not valid versioned JSON")
      | some document =>
        if document.schemaVersion ≠ deviceTransferSchema then
          .error (.invalidDeviceTransfer "schema_version is unsupported")
        else if maxTransferDeviceCount < document.devices.length then
          .error (.invalidDeviceTransfer "document contains too many devices")
        else
          match checkRecords [] document.devices with
          | .error e => .error e
          | .ok _ => .ok document.devices

inductive DeviceImportOutcome where
  | imported (importedCount replacedCount : ℕ)
  | targetNotEmpty (existingCount : ℕ)
  deriving DecidableEq

def insertDevice (now : Timestamp affinity) (table : DeviceTable) (device : RememberedDevice) :
    DeviceTable :=
  table.insert device.clientId
    ⟨device.name, device.isOutput, affinity.store (device.addedAt.getD now.value)⟩

def importRememberedDevices (codec : TransferCodec) (now : Timestamp affinity)
    (input : TransferInput) (replace : Bool) (table : DeviceTable) :
    Except StorageError DeviceImportOutcome × DeviceTable :=
  match readTransferFile codec input with
  | .error e => (.error e, table)
  | .ok devices =>
    if table.size ≠ 0 && !replace then (.ok (.targetNotEmpty table.size), table)
    else
      let start := if replace then ∅ else table
      (.ok (.imported devices.length (if replace then table.size else 0)),
        devices.foldl (insertDevice now) start)

end Source

/-! ## Tables that can be reached -/

/-- The tables that saving, forgetting and importing lead to. -/
inductive Reachable (codec : TransferCodec) (affinity : NumericAffinity) : DeviceTable → Prop
  | empty : Reachable codec affinity ∅
  | save {table : DeviceTable} (now : Timestamp affinity) (clientId name : String)
      (isOutput : Bool) : Reachable codec affinity table →
        Reachable codec affinity (save now clientId name isOutput table).2
  | forget {table : DeviceTable} (clientId : String) : Reachable codec affinity table →
      Reachable codec affinity (forget clientId table).2
  | importFile {table : DeviceTable} (now : Timestamp affinity) (input : TransferInput)
      (replace : Bool) : Reachable codec affinity table →
        Reachable codec affinity (importRememberedDevices codec now input replace table).2

structure RowKept (affinity : NumericAffinity) (clientId : String) (row : DeviceRow) : Prop where
  clientId : bounded 64 clientId = true ∧ clientId.toList.any isControl = false
  name : bounded 128 row.name = true
  addedAt : ∃ value, row.addedAt = affinity.store value ∧ bounded 64 value = true ∧
    value.toList.any isControl = false

def Kept (affinity : NumericAffinity) (table : DeviceTable) : Prop :=
  ∀ (clientId : String) (row : DeviceRow), table[clientId]? = some row →
    RowKept affinity clientId row

structure RecordValid (record : RememberedDevice) : Prop where
  clientId : bounded 64 record.clientId = true ∧ record.clientId.toList.any isControl = false
  name : bounded 128 record.name = true ∧ record.name.toList.any isControl = false
  addedAt : ∀ value, record.addedAt = some value →
    bounded 64 value = true ∧ value.toList.any isControl = false

section Reachable

variable {codec : TransferCodec} {affinity : NumericAffinity} {table : DeviceTable}
  {devices : List RememberedDevice}

theorem refused_iff {limit : ℕ} {value : String} :
    (!bounded limit value || value.toList.any isControl) = true ↔
      ¬ (bounded limit value = true ∧ value.toList.any isControl = false) := by
  cases bounded limit value <;> cases value.toList.any isControl <;> decide

theorem checkRecords_eq_ok {clientIds : List String} :
    checkRecords clientIds devices = .ok () ↔ (∀ record ∈ devices, RecordValid record) ∧
      (devices.map (·.clientId)).Nodup ∧ ∀ record ∈ devices, record.clientId ∉ clientIds := by
  induction devices generalizing clientIds with
  | nil => simp [checkRecords]
  | cons record rest ih =>
    have htime : (record.addedAt.any fun addedAt =>
        !bounded 64 addedAt || addedAt.toList.any isControl) = true ↔
          ¬ ∀ value, record.addedAt = some value →
            bounded 64 value = true ∧ value.toList.any isControl = false := by
      cases record.addedAt with
      | none => simp
      | some value =>
        exact refused_iff.trans (not_congr ⟨fun h _ hsome => Option.some.inj hsome ▸ h,
          fun h => h value rfl⟩)
    unfold checkRecords
    simp only [refused_iff, htime]
    rw [List.map_cons, List.nodup_cons]
    constructor
    · intro h
      split at h
      · cases h
      · next hid =>
        split at h
        · cases h
        · next hnew =>
          split at h
          · cases h
          · next hname =>
            split at h
            · cases h
            · next hadded =>
              obtain ⟨hvalid, hnodup, hapart⟩ := ih.mp h
              refine ⟨?_, ⟨?_, hnodup⟩, ?_⟩
              · rintro other (_ | ⟨_, hother⟩)
                · exact ⟨not_not.mp hid, not_not.mp hname, not_not.mp hadded⟩
                · exact hvalid other hother
              · intro hmem
                obtain ⟨other, hother, hsame⟩ := List.mem_map.mp hmem
                exact hapart other hother (hsame ▸ List.mem_cons_self)
              · rintro other (_ | ⟨_, hother⟩)
                · exact hnew
                · exact fun hmem => hapart other hother (List.mem_cons_of_mem _ hmem)
    · rintro ⟨hvalid, ⟨hnew, hnodup⟩, hapart⟩
      have hrecord := hvalid record List.mem_cons_self
      rw [if_neg (not_not.mpr hrecord.clientId), if_neg (hapart record List.mem_cons_self),
        if_neg (not_not.mpr hrecord.name), if_neg (not_not.mpr hrecord.addedAt)]
      refine ih.mpr ⟨fun other hother => hvalid other (List.mem_cons_of_mem _ hother), hnodup,
        fun other hother hmem => ?_⟩
      rcases List.mem_cons.mp hmem with hsame | hmem
      · exact hnew (hsame ▸ List.mem_map_of_mem hother)
      · exact hapart other (List.mem_cons_of_mem _ hother) hmem

theorem readTransferFile_valid {input : TransferInput}
    (h : readTransferFile codec input = .ok devices) : ∀ record ∈ devices, RecordValid record := by
  unfold readTransferFile at h
  split at h
  · cases h
  · split at h
    · cases h
    · split at h
      · cases h
      · split at h
        · cases h
        · split at h
          · cases h
          · split at h
            · cases h
            · next hchecked =>
              obtain rfl := Except.ok.inj h
              exact (checkRecords_eq_ok.mp hchecked).1

theorem Kept.insert (h : Kept affinity table) {clientId : String} {row : DeviceRow}
    (hrow : RowKept affinity clientId row) : Kept affinity (table.insert clientId row) := by
  intro other found hfound
  rw [Std.ExtTreeMap.getElem?_insert] at hfound
  split at hfound
  · next heq =>
    obtain rfl := Std.LawfulEqCmp.eq_of_compare heq
    obtain rfl := Option.some.inj hfound
    exact hrow
  · exact h other found hfound

theorem Timestamp.bounded (now : Timestamp affinity) : bounded 64 now.value = true := by
  unfold Devices.bounded
  rw [now.length]
  rfl

theorem RecordValid.rowKept {device : RememberedDevice} (h : RecordValid device)
    (now : Timestamp affinity) : RowKept affinity device.clientId
      ⟨device.name, device.isOutput, affinity.store (device.addedAt.getD now.value)⟩ := by
  refine ⟨h.clientId, h.name.1, _, rfl, ?_⟩
  cases hadded : device.addedAt with
  | none => exact ⟨now.bounded, now.printable⟩
  | some value => exact h.addedAt value hadded

theorem Kept.insertAll (h : Kept affinity table) (now : Timestamp affinity)
    (hvalid : ∀ record ∈ devices, RecordValid record) :
    Kept affinity (devices.foldl (insertDevice now) table) := by
  induction devices generalizing table with
  | nil => exact h
  | cons device rest ih =>
    refine ih (h.insert ((hvalid device List.mem_cons_self).rowKept now)) ?_
    exact fun record hrecord => hvalid record (List.mem_cons_of_mem _ hrecord)

theorem kept_empty : Kept affinity ∅ := by
  intro clientId row hrow
  rw [Std.ExtTreeMap.getElem?_empty] at hrow
  cases hrow

theorem Kept.save (h : Kept affinity table) (now : Timestamp affinity) (clientId name : String)
    (isOutput : Bool) : Kept affinity (save now clientId name isOutput table).2 := by
  unfold Devices.save
  cases hid : validateClientId clientId with
  | error e => exact h
  | ok _ =>
    dsimp only
    split
    · exact h
    · next hname =>
      unfold upsertDevice
      dsimp only
      split
      · exact h
      · refine h.insert ⟨?_, by simpa using hname, ?_⟩
        · unfold validateClientId at hid
          split at hid
          · cases hid
          · next hallowed => exact not_not.mp (mt refused_iff.mpr hallowed)
        · cases hold : table[clientId]? with
          | none => exact ⟨now.value, rfl, now.bounded, now.printable⟩
          | some row => exact (h clientId row hold).addedAt

theorem Kept.forget (h : Kept affinity table) (clientId : String) :
    Kept affinity (forget clientId table).2 := by
  unfold Devices.forget
  cases validateClientId clientId with
  | error e => exact h
  | ok _ =>
    intro other row hrow
    rw [Std.ExtTreeMap.getElem?_erase] at hrow
    split at hrow
    · cases hrow
    · exact h other row hrow

theorem Kept.importFile (h : Kept affinity table) (now : Timestamp affinity)
    (input : TransferInput) (replace : Bool) :
    Kept affinity (importRememberedDevices codec now input replace table).2 := by
  unfold importRememberedDevices
  cases hread : readTransferFile codec input with
  | error e => exact h
  | ok devices =>
    dsimp only
    split
    · exact h
    · have hvalid := readTransferFile_valid hread
      cases replace with
      | true => exact kept_empty.insertAll now hvalid
      | false => exact h.insertAll now hvalid

theorem Reachable.kept (h : Reachable codec affinity table) : Kept affinity table := by
  induction h with
  | empty => exact kept_empty
  | save now clientId name isOutput _ ih => exact ih.save now clientId name isOutput
  | forget clientId _ ih => exact ih.forget clientId
  | importFile now input replace _ ih => exact ih.importFile now input replace

end Reachable

/-! ## Backups -/

def SqlValue.asText : SqlValue → Option String
  | .text value => some value
  | _ => none

/-- The devices of a table, in the order they are exported. -/
def devicesOf (table : DeviceTable) : List RememberedDevice :=
  table.toList.map fun entry => ⟨entry.1, entry.2.name, entry.2.isOutput, entry.2.addedAt.asText⟩

/-- The exported file is accepted and leaves the exported devices in any table. -/
def RoundTrips (codec : TransferCodec) {affinity : NumericAffinity} (now : Timestamp affinity)
    (table : DeviceTable) : Prop :=
  ∃ count bytes, exportRememberedDevices codec table = .ok (count, bytes) ∧
    ∀ other, importRememberedDevices codec now (.file bytes) true other =
      (.ok (.imported count other.size), table)

/-- An import that is refused leaves the table as it was. -/
def RefusalsKeep (codec : TransferCodec) {affinity : NumericAffinity} (now : Timestamp affinity) :
    Prop :=
  ∀ input replace table, (∀ count replaced,
    (importRememberedDevices codec now input replace table).1 ≠ .ok (.imported count replaced)) →
      (importRememberedDevices codec now input replace table).2 = table

/-- The table keeps to the limits of the importer. -/
structure Portable (codec : TransferCodec) (table : DeviceTable) : Prop where
  texts : ∀ (clientId : String) (row : DeviceRow), table[clientId]? = some row →
    ∃ value, row.addedAt = .text value
  names : ∀ (clientId : String) (row : DeviceRow), table[clientId]? = some row →
    row.name.toList.any isControl = false
  count : table.size ≤ maxTransferDeviceCount
  size : (codec.transferBytes (devicesOf table)).length ≤ maxTransferFileBytes

section Backup

variable {codec : TransferCodec} {affinity : NumericAffinity} {table : DeviceTable}
  {now : Timestamp affinity}

theorem refusals_keep (codec : TransferCodec) (now : Timestamp affinity) :
    RefusalsKeep codec now := by
  intro input replace table h
  unfold importRememberedDevices at h ⊢
  split at h
  · rfl
  · split at h
    · next hfull => simp only [hfull, if_true]
    · exact absurd rfl (h _ _)

theorem mapM_stored {entries : List (String × DeviceRow)} {devices : List RememberedDevice} :
    entries.mapM storedDeviceFromRow = .ok devices ↔
      (∀ entry ∈ entries, ∀ value, entry.2.addedAt ≠ .number value) ∧
        devices = entries.map fun entry =>
          ⟨entry.1, entry.2.name, entry.2.isOutput, entry.2.addedAt.asText⟩ := by
  induction entries generalizing devices with
  | nil => simp [pure, Except.pure, eq_comm]
  | cons entry rest ih =>
    have hrow : ∀ device, storedDeviceFromRow entry = .ok device ↔
        (∀ value, entry.2.addedAt ≠ .number value) ∧
          device = ⟨entry.1, entry.2.name, entry.2.isOutput, entry.2.addedAt.asText⟩ := by
      intro device
      unfold storedDeviceFromRow
      cases entry.2.addedAt <;> simp [SqlValue.asText, eq_comm]
    rw [List.mapM_cons, bind_eq_ok]
    constructor
    · rintro ⟨device, hdevice, h⟩
      obtain ⟨others, hothers, h⟩ := bind_eq_ok.mp h
      obtain rfl := Except.ok.inj h
      obtain ⟨hfirst, rfl⟩ := (hrow device).mp hdevice
      obtain ⟨hrest, rfl⟩ := ih.mp hothers
      exact ⟨List.forall_mem_cons.mpr ⟨hfirst, hrest⟩, rfl⟩
    · rintro ⟨hall, rfl⟩
      obtain ⟨hfirst, hrest⟩ := List.forall_mem_cons.mp hall
      exact ⟨_, (hrow _).mpr ⟨hfirst, rfl⟩, bind_eq_ok.mpr ⟨_, ih.mpr ⟨hrest, rfl⟩, rfl⟩⟩

theorem mem_entry {entry : String × DeviceRow} :
    entry ∈ table.toList ↔ table[entry.1]? = some entry.2 :=
  Std.ExtTreeMap.mem_toList_iff_getElem?_eq_some

@[simp] theorem length_devicesOf : (devicesOf table).length = table.size := by
  unfold devicesOf
  rw [List.length_map, Std.ExtTreeMap.length_toList]

theorem export_eq_ok (hkept : Kept affinity table) {count : ℕ} {bytes : List UInt8} :
    exportRememberedDevices codec table = .ok (count, bytes) ↔
      (∀ (clientId : String) (row : DeviceRow), table[clientId]? = some row →
        ∃ value, row.addedAt = .text value) ∧
        count = table.size ∧ bytes = codec.transferBytes (devicesOf table) := by
  have hlength := @length_devicesOf table
  have htexts : (∀ entry ∈ table.toList, ∀ value, entry.2.addedAt ≠ .number value) ↔
      ∀ (clientId : String) (row : DeviceRow), table[clientId]? = some row →
        ∃ value, row.addedAt = .text value := by
    constructor
    · intro h clientId row hrow
      have hno := h (clientId, row) (mem_entry.mpr hrow)
      obtain ⟨kept, hstored, -⟩ := (hkept clientId row hrow).addedAt
      cases hadded : row.addedAt with
      | null => exact absurd (hstored.symm.trans hadded) (affinity.notNull kept)
      | text value => exact ⟨value, rfl⟩
      | number value => exact absurd hadded (hno value)
    · intro h entry hentry value hnumber
      obtain ⟨kept, htext⟩ := h entry.1 entry.2 (mem_entry.mp hentry)
      rw [htext] at hnumber
      cases hnumber
  unfold exportRememberedDevices
  rw [bind_eq_ok, ← htexts]
  constructor
  · rintro ⟨devices, hdevices, h⟩
    obtain ⟨hall, rfl⟩ := mapM_stored.mp hdevices
    obtain ⟨rfl, rfl⟩ := Prod.mk.inj (Except.ok.inj h)
    exact ⟨hall, hlength, rfl⟩
  · rintro ⟨hall, rfl, rfl⟩
    exact ⟨devicesOf table, mapM_stored.mpr ⟨hall, rfl⟩, by rw [← hlength]; rfl⟩

theorem checkRecords_devicesOf (hkept : Kept affinity table) :
    checkRecords [] (devicesOf table) = .ok () ↔
      ∀ (clientId : String) (row : DeviceRow), table[clientId]? = some row →
        row.name.toList.any isControl = false := by
  rw [checkRecords_eq_ok]
  constructor
  · rintro ⟨hvalid, -, -⟩ clientId row hrow
    exact (hvalid _ (List.mem_map_of_mem ((@mem_entry table (clientId, row)).mpr hrow))).name.2
  · intro hnames
    refine ⟨fun record hrecord => ?_, ?_, fun _ _ => List.not_mem_nil⟩
    · obtain ⟨entry, hentry, rfl⟩ := List.mem_map.mp hrecord
      have hrow := mem_entry.mp hentry
      obtain ⟨hid, hname, kept, hstored, hkeptValue⟩ := hkept entry.1 entry.2 hrow
      refine ⟨hid, ⟨hname, hnames entry.1 entry.2 hrow⟩, fun value hvalue => ?_⟩
      dsimp only at hvalue
      rw [hstored] at hvalue
      cases hkind : affinity.store kept with
      | null => exact absurd hkind (affinity.notNull kept)
      | text found =>
        rw [hkind] at hvalue
        obtain rfl := Option.some.inj hvalue
        rwa [affinity.text kept found hkind]
      | number found =>
        rw [hkind] at hvalue
        cases hvalue
    · unfold devicesOf
      rw [List.map_map]
      change (table.toList.map Prod.fst).Nodup
      rw [Std.ExtTreeMap.map_fst_toList_eq_keys]
      exact table.nodup_keys

theorem insert_devicesOf (hkept : Kept affinity table)
    (htexts : ∀ (clientId : String) (row : DeviceRow), table[clientId]? = some row →
      ∃ value, row.addedAt = .text value) :
    (devicesOf table).foldl (insertDevice now) ∅ = table := by
  have hrows : (devicesOf table).map (fun device => (device.clientId,
      (⟨device.name, device.isOutput,
      affinity.store (device.addedAt.getD now.value)⟩ : DeviceRow))) = table.toList := by
    unfold devicesOf
    rw [List.map_map]
    refine (List.map_congr_left fun entry hentry => ?_).trans (List.map_id table.toList)
    have hrow := mem_entry.mp hentry
    obtain ⟨value, hvalue⟩ := htexts entry.1 entry.2 hrow
    obtain ⟨kept, hstored, -⟩ := (hkept entry.1 entry.2 hrow).addedAt
    have hsame : value = kept := affinity.text kept value (hstored.symm.trans hvalue)
    refine Prod.ext rfl ?_
    simp only [Function.comp_apply, hvalue, SqlValue.asText, Option.getD_some, id_eq]
    rw [hsame, ← hstored]
  calc (devicesOf table).foldl (insertDevice now) ∅
      = MapInserts.insertAll ((devicesOf table).map fun device => (device.clientId,
          (⟨device.name, device.isOutput, affinity.store (device.addedAt.getD now.value)⟩ :
            DeviceRow))) ∅ := by
        unfold MapInserts.insertAll
        rw [List.foldl_map]
        rfl
    _ = table := by rw [hrows, MapInserts.insertAll_toList]

theorem readTransferFile_export (hkept : Kept affinity table)
    (hround : codec.fromSlice (codec.transferBytes (devicesOf table)) =
      some ⟨deviceTransferSchema, devicesOf table⟩) {devices : List RememberedDevice} :
    readTransferFile codec (.file (codec.transferBytes (devicesOf table))) = .ok devices ↔
      devices = devicesOf table ∧
        (codec.transferBytes (devicesOf table)).length ≤ maxTransferFileBytes ∧
        table.size ≤ maxTransferDeviceCount ∧
        ∀ (clientId : String) (row : DeviceRow), table[clientId]? = some row →
          row.name.toList.any isControl = false := by
  rw [← checkRecords_devicesOf hkept, ← length_devicesOf]
  unfold readTransferFile
  simp only [hround, ne_eq, not_true_eq_false, if_false]
  split
  · next hlarge =>
    exact ⟨nofun, fun ⟨_, hsmall, _⟩ => absurd hlarge (not_lt.mpr hsmall)⟩
  · next hsmall =>
    split
    · next hmany =>
      exact ⟨nofun, fun ⟨_, _, hfew, _⟩ => absurd hmany (not_lt.mpr hfew)⟩
    · next hfew =>
      cases hchecked : checkRecords [] (devicesOf table) with
      | error e => exact ⟨nofun, fun ⟨_, _, _, hok⟩ => nomatch hok⟩
      | ok checked =>
        constructor
        · intro h
          exact ⟨(Except.ok.inj h).symm, not_lt.mp hsmall, not_lt.mp hfew, rfl⟩
        · rintro ⟨rfl, -⟩
          rfl

theorem RoundTrips.portable (h : RoundTrips codec now table) (hkept : Kept affinity table)
    (hround : codec.fromSlice (codec.transferBytes (devicesOf table)) =
      some ⟨deviceTransferSchema, devicesOf table⟩) : Portable codec table := by
  obtain ⟨count, bytes, hexport, himport⟩ := h
  obtain ⟨htexts, -, rfl⟩ := (export_eq_ok hkept).mp hexport
  have hempty := congrArg Prod.fst (himport ∅)
  cases hread : readTransferFile codec (.file (codec.transferBytes (devicesOf table))) with
  | error e =>
    unfold importRememberedDevices at hempty
    rw [hread] at hempty
    cases hempty
  | ok devices =>
    obtain ⟨-, hsize, hcount, hnames⟩ := (readTransferFile_export hkept hround).mp hread
    exact ⟨htexts, hnames, hcount, hsize⟩

theorem Portable.roundTrips (h : Portable codec table) (hkept : Kept affinity table)
    (hround : codec.fromSlice (codec.transferBytes (devicesOf table)) =
      some ⟨deviceTransferSchema, devicesOf table⟩) : RoundTrips codec now table := by
  refine ⟨table.size, _, (export_eq_ok hkept).mpr ⟨h.texts, rfl, rfl⟩, fun other => ?_⟩
  have hread := (readTransferFile_export hkept hround).mpr ⟨rfl, h.size, h.count, h.names⟩
  unfold importRememberedDevices
  rw [hread]
  simp only [Bool.not_true, Bool.and_false, Bool.false_eq_true, if_false, if_true,
    length_devicesOf]
  rw [insert_devicesOf hkept h.texts]

/-- A backup is read back and makes the table again exactly where the table keeps to the limits of
the importer; a refused import changes nothing in any case. -/
theorem backup_roundTrips_iff (hreach : Reachable codec affinity table) (now : Timestamp affinity)
    (hround : codec.fromSlice (codec.transferBytes (devicesOf table)) =
      some ⟨deviceTransferSchema, devicesOf table⟩) :
    (RoundTrips codec now table ∧ RefusalsKeep codec now) ↔ Portable codec table := by
  constructor
  · exact fun h => h.1.portable hreach.kept hround
  · exact fun h => ⟨h.roundTrips hreach.kept hround, refusals_keep codec now⟩

end Backup

/-! ## A television -/

/-- A text of digits is kept as their number. -/
def digitsAffinity : NumericAffinity where
  store value := if value ≠ "" ∧ value.toList.all Char.isDigit then
      .number (value.toNat?.getD 0)
    else .text value
  text value kept h := by
    split at h
    · cases h
    · exact (SqlValue.text.inj h).symm
  notNull value := by split <;> nofun

def newYear : Timestamp digitsAffinity := ⟨"2026-01-01T00:00:00Z", by decide, by decide, by decide⟩

/-- One escape, which is enough for the names below. -/
def jsonString (value : String) : List Char :=
  '"' :: value.toList.flatMap (fun c => if c = '\n' then ['\\', 'n'] else [c]) ++ ['"']

def recordJson (device : RememberedDevice) : List Char :=
  "    \x7b\n      \"client_id\": ".toList ++ jsonString device.clientId ++
    ",\n      \"name\": ".toList ++ jsonString device.name ++
    ",\n      \"is_output\": ".toList ++ (if device.isOutput then "true" else "false").toList ++
    ",\n      \"added_at\": ".toList ++ (device.addedAt.elim "null".toList jsonString) ++
    "\n    \x7d".toList

def documentJson (document : DeviceTransferDocument) : List UInt8 :=
  ("\x7b\n  \"schema_version\": ".toList ++ jsonString document.schemaVersion ++
    ",\n  \"devices\": [\n".toList ++
    [',', '\n'].intercalate (document.devices.map recordJson) ++ "\n  ]\n\x7d".toList).map
      fun c => c.toNat.toUInt8

def television (name : String) : RememberedDevice :=
  ⟨"tv", name, true, some newYear.value⟩

/-- Reads the files with the one television. -/
def televisionCodec (name : String) : TransferCodec where
  toVecPretty := documentJson
  fromSlice bytes :=
    let document : DeviceTransferDocument := ⟨deviceTransferSchema, [television name]⟩
    if bytes = documentJson document ++ [10] then some document else none

def televisionTable (name : String) : DeviceTable := (save newYear "tv" name true ∅).2

theorem backup_roundTrips_iff_television :
    (RoundTrips (televisionCodec "Living room") newYear (televisionTable "Living room") ∧
      RefusalsKeep (televisionCodec "Living room") newYear) ↔
        Portable (televisionCodec "Living room") (televisionTable "Living room") :=
  backup_roundTrips_iff (.save newYear "tv" "Living room" true .empty) newYear (by decide +kernel)

/-- A name of two lines is saved and exported, and its backup is refused. -/
theorem line_break_lost :
    Reachable (televisionCodec "Living\nroom") digitsAffinity (televisionTable "Living\nroom") ∧
      (televisionCodec "Living\nroom").fromSlice ((televisionCodec "Living\nroom").transferBytes
        (devicesOf (televisionTable "Living\nroom"))) =
          some ⟨deviceTransferSchema, devicesOf (televisionTable "Living\nroom")⟩ ∧
      ¬ RoundTrips (televisionCodec "Living\nroom") newYear (televisionTable "Living\nroom") := by
  have hreach : Reachable (televisionCodec "Living\nroom") digitsAffinity
      (televisionTable "Living\nroom") := .save newYear "tv" "Living\nroom" true .empty
  have hround : (televisionCodec "Living\nroom").fromSlice
      ((televisionCodec "Living\nroom").transferBytes
        (devicesOf (televisionTable "Living\nroom"))) =
          some ⟨deviceTransferSchema, devicesOf (televisionTable "Living\nroom")⟩ := by
    decide +kernel
  refine ⟨hreach, hround, fun h => ?_⟩
  have hrow : (televisionTable "Living\nroom")["tv"]? =
      some ⟨"Living\nroom", true, .text newYear.value⟩ := by
    decide +kernel
  have hname := (h.portable hreach.kept hround).names "tv" _ hrow
  revert hname
  decide

end MusicServer.Devices
