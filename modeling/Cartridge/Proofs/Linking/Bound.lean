import Cartridge.Proofs.Linking.Drivers
import Cartridge.Proofs.Linking.Outcome

/-!
The size of the offset table in linked code. Distances to the base are told from the size of
the table, and offsets of routines from their slots. The slots are those of the document of
the table, whereas a number of entries can be given for the size. So an offset lies within
the size just if the number that is given, if any, counts its slot:
`routine_offsets_within_size`.
-/

namespace Cartridge

namespace Script

open OffsetTable (slotSize)

/-- Relocations that were read against a table are of slots of the table, so none of them
overflows as long as the table does not. -/
theorem patch_ne_overflow {table : OffsetTable} {dump : String} {relocations : List Relocation}
    (hwords : slotSize * table.size ≤ UInt64.size)
    (hdump : Dump.relocations table dump = .ok relocations) (tableSize loadOffset : UInt16)
    (code : Bytes) : patch tableSize loadOffset relocations code ≠ .error .overflow := by
  intro herror
  obtain ⟨before, r, after, rfl, -, hfault⟩ :=
    fixes_eq_error_iff.1 (patch_eq_error_iff.1 herror)
  have hread := Dump.index_of_mem_relocations hdump (r := r) (by simp)
  cases hfault with
  | overflow _ _ hindex hword =>
      rw [hindex] at hread
      split at hread
      · cases hread
      · obtain ⟨i, hfind, rfl⟩ := Option.map_eq_some_iff.1 hread.symm
        obtain ⟨e, he, -⟩ := OffsetTable.getElem?_of_find? hfind
        have hi : i < table.size := (List.getElem?_eq_some_iff.1 he).1
        rw [slotSize, UInt64.size] at hwords hword
        rw [UInt64.toNat_ofNat_of_lt' (by rw [UInt64.size]; omega)] at hword
        omega

end Script

namespace Command

open Script (OffsetTable)
open Script.OffsetTable (slotSize)

namespace Link

/-- The number of entries, if there is one, counts the slot. -/
def Args.Counts (args : Args) (slot : Nat) : Prop :=
  ∀ entries, args.entries = some entries → slot < entries.toNat

variable {args : Args} {table : OffsetTable} {size : UInt16}

theorem toNat_tableSize (h : tableSize args table = .ok size) :
    size.toNat = slotSize * (args.entries.map UInt16.toNat).getD table.size := by
  rw [tableSize] at h
  split at h
  · next entries hentries =>
      rw [hentries]
      split at h
      · next hfits =>
          cases h
          rw [UInt16.toNat_mul]
          exact (Nat.mod_eq_of_lt hfits).trans (Nat.mul_comm _ _)
      · cases h
  · next hentries _ =>
      rw [hentries]
      cases hsize : table.offsetSize with
      | error e =>
          rw [hsize] at h
          cases h
      | ok size =>
          rw [hsize] at h
          cases h
          exact OffsetTable.byteSize_of_offsetSize hsize
  · cases h

/-- A slot of the table ends within the size if it is counted, and only then. -/
theorem slot_within_tableSize_iff (h : tableSize args table = .ok size) {i : Nat}
    (hi : i < table.size) : slotSize * i + slotSize ≤ size.toNat ↔ args.Counts i := by
  rw [toNat_tableSize h, Args.Counts, slotSize]
  cases args.entries with
  | none =>
      simp only [Option.map_none, Option.getD_none, reduceCtorEq, false_implies, implies_true,
        iff_true]
      omega
  | some entries =>
      simp only [Option.map_some, Option.getD_some, Option.some.injEq, forall_eq']
      omega

theorem basedRelocations_eq_ok {relocations based : List Relocation}
    (h : basedRelocations relocations = .ok based) : based = relocations := by
  cases relocations with
  | nil =>
      cases h
      rfl
  | cons first others =>
      rw [basedRelocations] at h
      split at h
      · cases h
        rfl
      · cases h

/-- What a link that succeeds has read, and the code that it leaves. -/
structure Links (args : Args) (s after : Session) (table : OffsetTable) (size : UInt16)
    (relocations : List Relocation) (linked : Bytes) : Prop where
  loaded : runIn (loadTable args.table) s = (.ok table, s)
  sized : tableSize args table = .ok size
  parsed : ∃ dump, (Host.readText args.dump : StateM Session _) s = (.ok dump, s) ∧
    Script.Dump.relocations table dump = .ok relocations
  patched : ∃ code, s.files.read args.binary = .ok code ∧
    Script.patch size args.loadOffset relocations code = .ok linked
  written : after.files.read args.binary = .ok linked

theorem loadTable_onlyReads (path : Option String) :
    OnlyReads (loadTable path : ExceptT Failure (StateM Session) OffsetTable) := by
  cases path with
  | none => exact .pure _
  | some path =>
      refine .bind (.during (.readText path)) fun text => ?_
      split
      · exact .pure _
      · exact .throw _

theorem links_of_run {s after : Session} (h : runIn (run args) s = (.ok (), after)) :
    ∃ table size relocations linked, Links args s after table size relocations linked := by
  rw [run] at h
  -- Up to the code itself the command only reads, so all steps are in one session.
  obtain ⟨table, s₁, htable, h⟩ := runIn_bind_eq_ok.1 h
  obtain rfl : s = s₁ := (loadTable_onlyReads args.table).eq_of_run htable
  obtain ⟨size, s₂, hsized, h⟩ := runIn_bind_eq_ok.1 h
  obtain ⟨hsize, rfl⟩ := Prod.mk.inj (runIn_attempt_eq_ok.1 hsized)
  obtain ⟨dump, s₃, hdump, h⟩ := runIn_bind_eq_ok.1 h
  rw [runIn_during_eq_ok] at hdump
  obtain rfl : s = s₃ := (OnlyReads.readText args.dump).eq_of_run hdump
  rw [runIn_attempt_eq_ok] at hdump
  obtain ⟨relocations, s₄, hparsed, h⟩ := runIn_bind_eq_ok.1 h
  rw [runIn_during_eq_ok, runIn_attempt_eq_ok] at hparsed
  obtain ⟨hrelocations, rfl⟩ := Prod.mk.inj hparsed
  obtain ⟨based, s₅, hchecked, h⟩ := runIn_bind_eq_ok.1 (runIn_during_eq_ok.1 h)
  obtain ⟨hbased, rfl⟩ := Prod.mk.inj (runIn_attempt_eq_ok.1 hchecked)
  obtain ⟨count, s₆, hfile, h⟩ := runIn_bind_eq_ok.1 h
  obtain rfl : s₆ = after := (Prod.mk.inj h).2
  rw [runIn_attempt_eq_ok, basedRelocations_eq_ok hbased] at hfile
  rcases Script.linkFile_outcome args.binary relocations size args.loadOffset s with
    ⟨e, herror⟩ | ⟨code, linked, files, hcode, hpatch, hdone, hlinked, -⟩
  · rw [herror] at hfile
    cases hfile
  · rw [hdone] at hfile
    cases hfile
    exact ⟨table, size, relocations, linked, htable, hsize, ⟨dump, hdump, hrelocations⟩,
      ⟨code, hcode, hpatch⟩, hlinked⟩

/-- A link succeeds if all that it reads is in order and the code can be replaced. -/
theorem run_of_patch {s : Session} {relocations : List Relocation} {dump : String}
    {code linked : Bytes} (hload : runIn (loadTable args.table) s = (.ok table, s))
    (hsize : tableSize args table = .ok size)
    (hdump : s.files.read args.dump = .ok (Bytes.ofText dump))
    (hparsed : Script.Dump.relocations table dump = .ok relocations)
    (hbased : basedRelocations relocations = .ok relocations)
    (hcode : s.files.read args.binary = .ok code)
    (hstaging : s.files.Writable (Host.stagingPath args.binary))
    (hpatch : Script.patch size args.loadOffset relocations code = .ok linked) :
    ∃ after, runIn (run args) s = (.ok (), after) ∧
      after.files.read args.binary = .ok linked := by
  have hsized : runIn (attempt id (pure (tableSize args table))) s = (.ok size, s) :=
    runIn_attempt_ok (congrArg (·, s) hsize)
  have htext : runIn (during ("reading " ++ args.dump) (attempt .file (Host.readText args.dump)))
      s = (.ok dump, s) := runIn_during_ok (runIn_attempt_ok (Session.run_readText hdump))
  have hread : runIn (during ("parsing " ++ args.dump) (attempt .link
      (pure (Script.Dump.relocations table dump)))) s = (.ok relocations, s) :=
    runIn_during_ok (runIn_attempt_ok (congrArg (·, s) hparsed))
  rw [run, runIn_bind_ok hload, runIn_bind_ok hsized, runIn_bind_ok htext, runIn_bind_ok hread]
  rcases @runIn_linking args.binary size args.loadOffset code s hcode hstaging relocations with
    ⟨e, herror, -⟩ | ⟨linked', files, hlinked, hdone, hwritten⟩
  · rw [hbased] at herror
    cases hpatch.symm.trans herror
  · rw [hbased] at hlinked
    cases hpatch.symm.trans hlinked
    exact ⟨_, hdone, hwritten⟩

/-- Where a link that succeeds refers to a routine, the code holds the offset of the slot of
the routine. It is within the size that the code is told of where it refers to the base,
just if the number of entries is not given or counts the slot. The size of a table is
told in 32-bit words, so this is about tables of fewer than `2 ^ 30` routines. -/
theorem routine_offsets_within_size {s after : Session}
    (h : runIn (run args) s = (.ok (), after)) :
    ∃ table size relocations linked, Links args s after table size relocations linked ∧
      (table.size < 2 ^ 30 → ∀ r ∈ relocations, ∃ v,
        Script.fieldValue size args.loadOffset r = .ok v ∧
        (∀ earlier later, relocations = earlier ++ r :: later →
          (∀ other ∈ later, r.Apart other) →
          linked.numberAt? r.address.toNat 2 = some v.toNat) ∧
        (r.isBase = true →
          (v.toNat + r.address.toNat + args.loadOffset.toNat + size.toNat) % 65536 = 0) ∧
        (r.isBase = false → ∃ i, table.find? r.scope r.name = some i ∧
          (v.toNat + slotSize ≤ size.toNat ↔ args.Counts i))) := by
  obtain ⟨table, size, relocations, linked, hlinks⟩ := links_of_run h
  obtain ⟨dump, -, hdump⟩ := hlinks.parsed
  obtain ⟨code, -, hpatch⟩ := hlinks.patched
  refine ⟨table, size, relocations, linked, hlinks, fun hsmall r hr => ?_⟩
  obtain ⟨-, v, hv⟩ := Script.field_of_patch hpatch hr
  refine ⟨v, hv, ?_, fun hbase => Script.fieldValue_of_isBase hbase hv, fun hbase => ?_⟩
  · rintro earlier later rfl hapart
    obtain ⟨value, hvalue, hfield⟩ := Script.patch_field hpatch hapart
    rw [hv] at hvalue
    cases hvalue
    exact hfield
  · have hwords : table.size ≤ UInt64.size := by
      rw [UInt64.size]
      omega
    obtain ⟨i, hfind, hi, hoffset⟩ := Script.slot_of_fieldValue hwords hbase
      (Script.Dump.index_of_mem_relocations hdump hr) hv
    exact ⟨i, hfind, by rw [hoffset, slot_within_tableSize_iff hlinks.sized hi]⟩

end Link

/-! A number of entries that counts the slot of the one routine, and one that does not. -/

def countedArgs (entries : UInt16) : Link.Args :=
  { tickArgs with entries := some entries }

theorem loadTable_tickSession : runIn (Link.loadTable (some "table.json")) tickSession =
    (.ok (.ofRoutines Script.tickRoutines), tickSession) := by
  rw [runIn_loadTable rfl (parse?_tableDocument _),
    (OffsetTable.dense_ofRoutines Script.tickRoutines).ofRoutines_entries]

theorem relocations_tickDump : Script.Dump.relocations (.ofRoutines Script.tickRoutines)
    Script.tickDump = .ok Script.tickRelocations := by
  decide +kernel

theorem eq_of_links_tickSession {entries size : UInt16} {after : Session} {table : OffsetTable}
    {relocations : List Relocation} {linked : Bytes}
    (h : Link.Links (countedArgs entries) tickSession after table size relocations linked) :
    table = .ofRoutines Script.tickRoutines ∧ relocations = Script.tickRelocations := by
  cases loadTable_tickSession.symm.trans h.loaded
  obtain ⟨dump, hread, hparsed⟩ := h.parsed
  have htext : (Host.readText "tick.txt" : StateM Session _) tickSession =
      (.ok Script.tickDump, tickSession) := Session.run_readText rfl
  cases htext.symm.trans hread
  rw [relocations_tickDump] at hparsed
  exact ⟨rfl, (Except.ok.inj hparsed).symm⟩

theorem run_countedArgs (entries size : UInt16) (linked : Bytes)
    (hsize : Link.tableSize (countedArgs entries) (.ofRoutines Script.tickRoutines) = .ok size)
    (hpatch : Script.patch size 0x200 Script.tickRelocations [1, 2, 3, 4, 5, 6, 7] = .ok linked) :
    ∃ after, runIn (Link.run (countedArgs entries)) tickSession = (.ok (), after) ∧
      after.files.read "tick.bin" = .ok linked := by
  have hstaging : tickSession.files.Writable (Host.stagingPath "tick.bin") :=
    ⟨["tick.tmp"], rfl, nofun⟩
  have hdump : tickSession.files.read "tick.txt" = .ok (Bytes.ofText Script.tickDump) := rfl
  have hcode : tickSession.files.read "tick.bin" = .ok [1, 2, 3, 4, 5, 6, 7] := rfl
  exact Link.run_of_patch loadTable_tickSession hsize hdump
    relocations_tickDump rfl hcode hstaging hpatch

theorem tick_slot_counted :
    ∃ after linked, runIn (Link.run (countedArgs 2)) tickSession = (.ok (), after) ∧
      after.files.read "tick.bin" = .ok linked ∧
      ∃ offset, linked.numberAt? 4 2 = some offset ∧ offset + slotSize ≤ 8 := by
  obtain ⟨after, hrun, -⟩ := run_countedArgs 2 8 _ rfl rfl
  obtain ⟨table, size, relocations, linked, hlinks, hfields⟩ :=
    Link.routine_offsets_within_size hrun
  obtain ⟨rfl, rfl⟩ := eq_of_links_tickSession hlinks
  obtain rfl : (8 : UInt16) = size := Except.ok.inj hlinks.sized
  obtain ⟨v, -, hfield, -, hroutine⟩ :=
    hfields (by decide) ⟨4, "Bar", "Tick", some 1⟩ (by decide)
  obtain ⟨i, hfind, hwithin⟩ := hroutine (by decide)
  obtain rfl : 1 = i := by
    have hslot : (OffsetTable.ofRoutines Script.tickRoutines).find? "Bar" "Tick" = some 1 := by
      decide +kernel
    exact Option.some.inj (hslot.symm.trans hfind)
  have hcounts : (countedArgs 2).Counts 1 := by
    rintro _ ⟨⟩
    decide
  exact ⟨after, linked, hrun, hlinks.written, v.toNat,
    hfield [⟨0, "", "_GLOBAL_OFFSET_TABLE_", none⟩] [] rfl (by simp), hwithin.2 hcounts⟩

/-- The code that is linked with one entry refers to the slot behind it. -/
theorem tick_slot_not_counted :
    ∃ after, runIn (Link.run (countedArgs 1)) tickSession = (.ok (), after) ∧
      Link.tableSize (countedArgs 1) (.ofRoutines Script.tickRoutines) = .ok 4 ∧
      ∃ linked distance offset, after.files.read "tick.bin" = .ok linked ∧
        linked.numberAt? 0 2 = some distance ∧ (distance + 0 + 0x200 + 4) % 65536 = 0 ∧
        linked.numberAt? 4 2 = some offset ∧ ¬offset + slotSize ≤ 4 := by
  obtain ⟨after, hrun, hread⟩ := run_countedArgs 1 4 [0xFD, 0xFC, 3, 4, 0, 4, 7] rfl rfl
  exact ⟨after, hrun, rfl, _, 0xFDFC, 4, hread, by decide⟩

end Command

end Cartridge
