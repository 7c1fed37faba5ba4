import Mathlib.Data.List.Nodup
import WalCheckpoint.Metrics
import WalCheckpoint.Proofs.Binary64.Finite

namespace WalCheckpoint.Metrics

/-! What is measured of a server is what its samples show, and the other way round. -/

/-- No server is measured twice. -/
def Distinct (m : Metrics) : Prop :=
  (m.map Prod.fst).Nodup

theorem Distinct.empty : Distinct empty := List.nodup_nil

theorem map_fst_modify (server : String) (f : ServerMetrics → ServerMetrics) (m : Metrics) :
    (modify server f m).map Prod.fst =
      if server ∈ m.map Prod.fst then m.map Prod.fst else m.map Prod.fst ++ [server] := by
  induction m with
  | nil => rfl
  | cons entry rest induction =>
      obtain ⟨name, measured⟩ := entry
      by_cases same : name = server
      · simp [modify, same]
      · rw [modify, if_neg same, List.map_cons, induction]
        by_cases later : server ∈ rest.map Prod.fst
        · simp [later]
        · simp [later, Ne.symm same]

theorem Distinct.modify {m : Metrics} (distinct : Distinct m) (server : String)
    (f : ServerMetrics → ServerMetrics) : Distinct (modify server f m) := by
  rw [Distinct, map_fst_modify]
  split
  · exact distinct
  · next fresh =>
      refine List.Nodup.append distinct (List.nodup_singleton server) ?_
      simpa using fresh

theorem ofServer_of_mem {m : Metrics} (distinct : Distinct m) {server : String}
    {measured : ServerMetrics} (member : (server, measured) ∈ m) :
    m.ofServer server = measured := by
  induction m with
  | nil => contradiction
  | cons entry rest induction =>
      obtain ⟨name, first⟩ := entry
      obtain ⟨fresh, distinct⟩ := List.nodup_cons.mp distinct
      rcases List.mem_cons.mp member with same | later
      · obtain ⟨rfl, rfl⟩ := Prod.mk.inj same
        simp [ofServer]
      · have other : name ≠ server := by
          rintro rfl
          exact fresh (List.mem_map.mpr ⟨(_, measured), later, rfl⟩)
        have found := induction distinct later
        rw [ofServer] at found ⊢
        rwa [List.find?_cons_of_neg (by simpa using other)]

theorem ofServer_of_absent {m : Metrics} {server : String}
    (absent : ∀ entry ∈ m, entry.1 ≠ server) : m.ofServer server = .empty := by
  have none : m.find? (fun entry => entry.1 == server) = none :=
    List.find?_eq_none.mpr fun entry member => by simpa using absent entry member
  rw [ofServer, none]
  rfl

@[simp] theorem mem_gaugeSample {metric server : String} {shown : Option Binary64}
    {sample : Sample} :
    sample ∈ gaugeSample metric server shown ↔
      ∃ x, shown = some x ∧ sample = ⟨metric, server, none, x⟩ := by
  cases shown <;> simp [gaugeSample]

@[simp] theorem mem_counterSample {metric server : String} {kind : Option String} {n : Nat}
    {sample : Sample} :
    sample ∈ counterSample metric server kind n ↔
      n ≠ 0 ∧ sample = ⟨metric, server, kind, count n⟩ := by
  by_cases none : n = 0 <;> simp [counterSample, none]

theorem server_of_mem_serverSamples {server : String} {measured : ServerMetrics} {sample : Sample}
    (member : sample ∈ serverSamples server measured) : sample.server = server := by
  simp only [serverSamples, List.mem_append, mem_gaugeSample, mem_counterSample] at member
  obtain ((((⟨_, _, rfl⟩ | ⟨_, rfl⟩) | ⟨_, _, rfl⟩) | ⟨_, _, rfl⟩) | ⟨_, rfl⟩) | ⟨_, rfl⟩ := member <;>
    rfl

theorem mem_samples {m : Metrics} (distinct : Distinct m) (sample : Sample) :
    sample ∈ m.samples ↔ sample ∈ serverSamples sample.server (m.ofServer sample.server) := by
  rw [samples, List.mem_mergeSort, List.mem_flatMap]
  constructor
  · rintro ⟨⟨server, measured⟩, measures, member⟩
    obtain rfl := server_of_mem_serverSamples member
    rwa [ofServer_of_mem distinct measures]
  · intro member
    by_cases measures : ∃ entry ∈ m, entry.1 = sample.server
    · obtain ⟨⟨server, measured⟩, measures, rfl⟩ := measures
      rw [ofServer_of_mem distinct measures] at member
      exact ⟨_, measures, member⟩
    · have absent : ∀ entry ∈ m, entry.1 ≠ sample.server := fun entry measured same =>
        measures ⟨entry, measured, same⟩
      rw [ofServer_of_absent absent] at member
      contradiction

/-! Recordings of numbers that gauges can show. -/

section Recording

variable {m : Metrics} (server : String)

theorem Distinct.recordLsn (distinct : Distinct m) (lsn : Option Value) :
    Distinct (recordLsn server lsn m).1 := by
  cases lsn with
  | none => exact distinct
  | some lsn => exact distinct.modify ..

theorem Distinct.recordCommit (distinct : Distinct m) (commitMicros : Option Value) :
    Distinct (recordCommit server commitMicros m).1 := by
  cases commitMicros with
  | none => exact distinct
  | some commitMicros => exact distinct.modify ..

theorem Distinct.recordPosition (distinct : Distinct m) (lsn commitMicros : Option Value) :
    Distinct (recordPosition server lsn commitMicros m).1 := by
  have counted := (distinct.modify server fun s =>
    { s with positionUpdates := s.positionUpdates + 1 }).recordLsn server lsn
  rw [Metrics.recordPosition]
  split
  · next recorded =>
      rw [recorded] at counted
      exact counted.recordCommit server commitMicros
  · exact counted

theorem Distinct.recordTimestamp (distinct : Distinct m) (commitMicros : Option Value) :
    Distinct (recordTimestamp server commitMicros m).1 :=
  (distinct.modify ..).recordCommit server commitMicros

/-- The whole numbers of 64 bits. -/
def FitsInt64 (n : Int) : Prop :=
  -0x8000000000000000 ≤ n ∧ n < 0x8000000000000000

instance (n : Int) : Decidable (FitsInt64 n) := inferInstanceAs (Decidable (_ ∧ _))

theorem gaugeNumber_int {n : Int} (fits : FitsInt64 n) :
    gaugeNumber (.int n) = .ok (Binary64.ofSignedRatio n 1) := by
  obtain ⟨low, high⟩ := fits
  rw [gaugeNumber, Binary64.ofInt?, Binary64.quotient?_eq_some (by omega) (by decide)]
  rfl

theorem seconds_int {n : Int} (fits : FitsInt64 n) :
    seconds (.int n) = .ok (Binary64.ofSignedRatio n microsPerSecond) := by
  obtain ⟨low, high⟩ := fits
  rw [seconds, Binary64.quotient?_eq_some (by omega) (by decide)]
  rfl

variable (m)

theorem recordLsn_int {lsn : Option Int} (fits : ∀ n ∈ lsn, FitsInt64 n) :
    (recordLsn server (lsn.map .int) m).2 = .ok () ∧
      ∀ other, (recordLsn server (lsn.map .int) m).1.ofServer other =
        if other = server then
          { m.ofServer server with
            lsn := (lsn.map (Binary64.ofSignedRatio · 1)).or (m.ofServer server).lsn }
        else m.ofServer other := by
  cases lsn with
  | none =>
      refine ⟨rfl, fun other => ?_⟩
      by_cases same : other = server <;> simp [recordLsn, same]
  | some n =>
      simp only [Option.map_some, recordLsn, gaugeNumber_int (fits n rfl), ofServer_modify]
      exact ⟨rfl, fun other => rfl⟩

theorem recordCommit_int {commitMicros : Option Int} (fits : ∀ n ∈ commitMicros, FitsInt64 n) :
    (recordCommit server (commitMicros.map .int) m).2 = .ok () ∧
      ∀ other, (recordCommit server (commitMicros.map .int) m).1.ofServer other =
        if other = server then
          { m.ofServer server with
            commitSeconds := (commitMicros.map
              (Binary64.ofSignedRatio · microsPerSecond)).or (m.ofServer server).commitSeconds }
        else m.ofServer other := by
  cases commitMicros with
  | none =>
      refine ⟨rfl, fun other => ?_⟩
      by_cases same : other = server <;> simp [recordCommit, same]
  | some n =>
      simp only [Option.map_some, recordCommit, seconds_int (fits n rfl), ofServer_modify]
      exact ⟨rfl, fun other => rfl⟩

theorem recordPosition_int {lsn commitMicros : Option Int} (fitsLsn : ∀ n ∈ lsn, FitsInt64 n)
    (fitsCommit : ∀ n ∈ commitMicros, FitsInt64 n) (other : String) :
    (recordPosition server (lsn.map .int) (commitMicros.map .int) m).1.ofServer other =
      if other = server then
        { m.ofServer server with
          positionUpdates := (m.ofServer server).positionUpdates + 1
          lsn := (lsn.map (Binary64.ofSignedRatio · 1)).or (m.ofServer server).lsn
          commitSeconds := (commitMicros.map
            (Binary64.ofSignedRatio · microsPerSecond)).or (m.ofServer server).commitSeconds }
      else m.ofServer other := by
  obtain ⟨shown, measured⟩ := recordLsn_int
    (m.modify server fun s => { s with positionUpdates := s.positionUpdates + 1 }) server fitsLsn
  rw [recordPosition]
  split
  · next recorded =>
      rw [recorded] at measured
      rw [(recordCommit_int _ server fitsCommit).2, measured, measured, ofServer_modify, ofServer_modify]
      by_cases same : other = server <;> simp [same]
  · next failed => exact (failed _ (Prod.ext rfl shown)).elim

theorem recordTimestamp_int {commitMicros : Option Int} (fits : ∀ n ∈ commitMicros, FitsInt64 n)
    (other : String) :
    (recordTimestamp server (commitMicros.map .int) m).1.ofServer other =
      if other = server then
        { m.ofServer server with
          timestampUpdates := (m.ofServer server).timestampUpdates + 1
          commitSeconds := (commitMicros.map
            (Binary64.ofSignedRatio · microsPerSecond)).or (m.ofServer server).commitSeconds }
      else m.ofServer other := by
  rw [recordTimestamp, (recordCommit_int _ server fits).2, ofServer_modify, ofServer_modify]
  by_cases same : other = server <;> simp [same]

theorem ofServer_loaded (inEffect : Bool) (other : String) :
    ((m.countCheckpointLoaded server).setSnapshotInEffect server inEffect).ofServer other =
      if other = server then
        { m.ofServer server with
          snapshotInEffect := some inEffect
          checkpointsLoaded := (m.ofServer server).checkpointsLoaded + 1 }
      else m.ofServer other := by
  rw [setSnapshotInEffect, countCheckpointLoaded, ofServer_modify, ofServer_modify,
    ofServer_modify]
  by_cases same : other = server <;> simp [same]

end Recording

end WalCheckpoint.Metrics
