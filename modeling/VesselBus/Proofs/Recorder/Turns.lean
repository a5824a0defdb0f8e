import VesselBus.Proofs.Recorder.Conservation

/-!
# In which order the batches reach the store

A batch is taken out of the buffer under one lock and stored under another. A worker and a flush can both have
one in hand, and nothing makes them store in the order in which they took. The store is given the entries oldest
first exactly as long as whoever took first also stores first. A stop waits for its worker before it takes, so
only a flush can break the order.
-/

namespace VesselBus

/-- Who can hold a batch between the buffer and the store. -/
inductive Hand where
  | worker
  | caller
  deriving DecidableEq, Repr

namespace LiveRecorder

variable {σ : Type} {store : LogStore σ} {trace marks : List RecorderMark} {s t : LiveRecorder σ}
  {line : List Hand}

def inHand (s : LiveRecorder σ) : Hand → List LogEntry
  | .worker => carried s.errands
  | .caller => s.control.batch

/-! ## The line -/

/-- Hands whose batch is gone leave the line, and one that has got a batch goes to its end. -/
def lineUp (holds : Hand → List LogEntry) (line : List Hand) : List Hand :=
  line.filter (holds · ≠ []) ++ [Hand.worker, .caller].filter fun hand => holds hand ≠ [] ∧ hand ∉ line

structure Lined (holds : Hand → List LogEntry) (line : List Hand) : Prop where
  nodup : line.Nodup
  mem_iff : ∀ hand, hand ∈ line ↔ holds hand ≠ []

variable {holds : Hand → List LogEntry} {hand : Hand} {batch : List LogEntry}

theorem lined_lineUp (nodup : line.Nodup) : Lined holds (lineUp holds line) where
  nodup := by
    refine List.nodup_append.2 ⟨nodup.filter _, List.Pairwise.filter _ (by decide), ?_⟩
    rintro hand old _ new rfl
    simp only [List.mem_filter, decide_eq_true_eq] at old new
    exact new.2.2 old.1
  mem_iff hand := by
    by_cases old : hand ∈ line <;> cases hand <;> simp [lineUp, old]

theorem Lined.lineUp_self (inv : Lined holds line) : lineUp holds line = line := by
  have stay : line.filter (holds · ≠ []) = line :=
    List.filter_eq_self.2 fun hand here => decide_eq_true ((inv.mem_iff hand).1 here)
  have nobody : ([Hand.worker, .caller].filter fun hand => holds hand ≠ [] ∧ hand ∉ line) = [] :=
    List.filter_eq_nil_iff.2 fun hand _ => by simp [inv.mem_iff]
  rw [lineUp, stay, nobody, List.append_nil]

theorem filter_update_of_not_mem (full : ∀ other ∈ line, holds other ≠ []) (absent : hand ∉ line) :
    line.filter (Function.update holds hand batch · ≠ []) = line := by
  refine List.filter_eq_self.2 fun other here => decide_eq_true ?_
  rw [Function.update_of_ne (ne_of_mem_of_not_mem here absent)]
  exact full other here

theorem Lined.lineUp_taken (inv : Lined holds line) (empty : holds hand = []) (some : batch ≠ []) :
    lineUp (Function.update holds hand batch) line = line ++ [hand] := by
  have absent : hand ∉ line := by simp [inv.mem_iff, empty]
  have stay : line.filter (Function.update holds hand batch · ≠ []) = line :=
    filter_update_of_not_mem (fun other here => (inv.mem_iff other).1 here) absent
  have joins : ([Hand.worker, .caller].filter fun other =>
      Function.update holds hand batch other ≠ [] ∧ other ∉ line) = [hand] := by
    cases hand <;> simp [inv.mem_iff, empty, some]
  rw [lineUp, stay, joins]

theorem Lined.lineUp_handed {rest : List Hand} (inv : Lined holds (hand :: rest)) :
    lineUp (Function.update holds hand []) (hand :: rest) = rest := by
  have absent : hand ∉ rest := (List.nodup_cons.1 inv.nodup).1
  have stay : rest.filter (Function.update holds hand [] · ≠ []) = rest :=
    filter_update_of_not_mem (fun other here => (inv.mem_iff other).1 (List.mem_cons_of_mem _ here)) absent
  have nobody : ([Hand.worker, .caller].filter fun other =>
      Function.update holds hand [] other ≠ [] ∧ other ∉ hand :: rest) = [] := by
    refine List.filter_eq_nil_iff.2 fun other _ => ?_
    rw [decide_eq_true_eq, inv.mem_iff]
    by_cases same : other = hand <;> simp [same]
  rw [lineUp, nobody, List.append_nil, List.filter_cons_of_neg (by simp), stay]

theorem flatMap_update_of_not_mem (absent : hand ∉ line) :
    line.flatMap (Function.update holds hand batch) = line.flatMap holds :=
  List.flatMap_congr fun _ here => Function.update_of_ne (ne_of_mem_of_not_mem here absent) ..

/-! ## What a step does to the hands -/

/-- A step leaves the hands alone, or puts into one hand what was first in the buffer, or empties one at the
store. -/
inductive Move (marks : List RecorderMark) (s t : LiveRecorder σ) : Prop where
  | keep (hands : t.inHand = s.inHand) (noneHanded : handed marks = [])
    (pending : t.recorder.buffer.pending = s.recorder.buffer.pending ++ recorded marks)
  | take (hand : Hand) (batch : List LogEntry) (empty : s.inHand hand = [])
    (hands : t.inHand = Function.update s.inHand hand batch) (noneHanded : handed marks = [])
    (noneRecorded : recorded marks = [])
    (pending : s.recorder.buffer.pending = batch ++ t.recorder.buffer.pending)
  | give (hand : Hand) (hands : t.inHand = Function.update s.inHand hand [])
    (given : handed marks = s.inHand hand) (noneRecorded : recorded marks = [])
    (pending : t.recorder.buffer.pending = s.recorder.buffer.pending)

theorem inHand_eq (worker : carried t.errands = carried s.errands) (caller : t.control.batch = s.control.batch) :
    t.inHand = s.inHand := by
  funext hand
  cases hand with
  | worker => exact worker
  | caller => exact caller

theorem inHand_eq_update_worker (worker : carried t.errands = batch) (caller : t.control.batch = s.control.batch) :
    t.inHand = Function.update s.inHand .worker batch := by
  refine Function.eq_update_iff.2 ⟨worker, fun other ne => ?_⟩
  cases other with
  | worker => exact absurd rfl ne
  | caller => exact caller

theorem inHand_eq_update_caller (worker : t.errands = s.errands) (caller : t.control.batch = batch) :
    t.inHand = Function.update s.inHand .caller batch := by
  refine Function.eq_update_iff.2 ⟨caller, fun other ne => ?_⟩
  cases other with
  | worker => exact congrArg carried worker
  | caller => exact absurd rfl ne

theorem eq_singleton_of_mem {α : Type} {xs : List α} {x : α} (single : xs.length ≤ 1) (h : x ∈ xs) : xs = [x] := by
  obtain ⟨y, rfl⟩ := List.length_eq_one_iff.1 (Nat.le_antisymm single (List.length_pos_of_mem h))
  rw [List.mem_singleton.1 h]

theorem Step.move (h : Step store s marks t) (single : s.errands.length ≤ 1) : Move marks s t := by
  cases h with
  | deliver settings now m =>
    refine .keep (inHand_eq rfl rfl) rfl ?_
    rw [pending_receive]
    cases h : LogEntry.of? now m <;> simp [recorded, RecorderMark.entry?, h]
  | refresh settings =>
    exact .keep (inHand_eq rfl rfl) rfl ((pending_refresh settings s.recorder).trans (List.append_nil _).symm)
  | open_ | look | enter => exact .keep (inHand_eq rfl rfl) rfl (List.append_nil _).symm
  | start | refuse | starve | wake =>
    exact .keep (inHand_eq rfl rfl) (handed_said _) (by simp [Recorder.manning])
  | stopNobody slot free | stop slot index free =>
    refine .keep (inHand_eq rfl (by rw [free]; rfl)) (handed_said _) ?_
    rw [recorded_stopCalled, recorded_said]
    exact (List.append_nil _).symm
  | join index waits =>
    exact .keep (inHand_eq rfl (by rw [waits]; rfl)) (handed_said _) (by simp)
  | flush free =>
    exact .take .caller _ (congrArg Control.batch free) (inHand_eq_update_caller rfl rfl) rfl rfl
      s.recorder.buffer.take_append_pending.symm
  | close closing =>
    exact .take .caller _ (congrArg Control.batch closing) (inHand_eq_update_caller rfl rfl) rfl rfl
      s.recorder.buffer.take_append_pending.symm
  | store stopping batch state storing =>
    have given : s.inHand .caller = batch := congrArg Control.batch storing
    exact .give .caller (inHand_eq_update_caller rfl rfl) (by simp [given]) (by simp) rfl
  | storePanics stopping batch cause state storing =>
    have given : s.inHand .caller = batch := congrArg Control.batch storing
    exact .give .caller (inHand_eq_update_caller rfl rfl) (by simp [given]) (by simp) rfl
  | turnBack index size sized =>
    have only := eq_singleton_of_mem single sized
    refine .keep (inHand_eq ?_ rfl) rfl (List.append_nil _).symm
    simp [only, carried, Errand.batch]
  | take index size sized =>
    have only := eq_singleton_of_mem single sized
    refine .take .worker s.recorder.buffer.take.1 ?_ (inHand_eq_update_worker ?_ rfl) rfl rfl ?_
    · rw [inHand, only]
      rfl
    · simp [only, carried, Errand.batch]
    · exact s.recorder.buffer.take_append_pending.symm
  | hand index batch carrying =>
    have only := eq_singleton_of_mem single carrying
    have given : s.inHand .worker = batch := by simp [inHand, only, carried, Errand.batch]
    refine .give .worker (inHand_eq_update_worker ?_ rfl) (by simp [given]) (by simp) rfl
    simp [only, carried]

/-! ## Turns -/

/-- Whoever hands a batch to the store is first in the line. -/
def InOrderStep (line : List Hand) (s t : LiveRecorder σ) : Prop :=
  ∀ hand, s.inHand hand ≠ [] → t.inHand hand = [] → line.head? = some hand

/-- Runs in which the batches are handed over in the order in which they were taken, with the line of those who
hold one. -/
inductive InTurn (store : LogStore σ) : List RecorderMark → LiveRecorder σ → List Hand → Prop where
  | new (size : Nat) (loopTime : Duration) (state : σ) :
    InTurn store [] { recorder := .create size loopTime, store := state } []
  | step {trace marks : List RecorderMark} {s t : LiveRecorder σ} {line : List Hand} :
    InTurn store trace s line → Step store s marks t → InOrderStep line s t →
    InTurn store (trace ++ marks) t (lineUp t.inHand line)

theorem InTurn.reachable (h : InTurn store trace s line) : Reachable store trace s := by
  induction h with
  | new size loopTime state => exact .new size loopTime state
  | step _ step _ ih => exact ih.step step

theorem InTurn.lined (h : InTurn store trace s line) : Lined s.inHand line := by
  induction h with
  | new =>
    refine ⟨List.nodup_nil, fun hand => ?_⟩
    cases hand <;> simp [inHand, carried, Control.batch]
  | step _ _ _ ih => exact lined_lineUp ih.nodup

/-- The entries stand in the order in which they were recorded: at the store, in the hands along the line, and in
the buffer. -/
theorem InTurn.recorded_eq (h : InTurn store trace s line) :
    recorded trace = handed trace ++ line.flatMap s.inHand ++ s.recorder.buffer.pending := by
  induction h with
  | new => rfl
  | @step trace marks s t line run step inOrder ih =>
    have inv := run.lined
    rw [recorded_append, handed_append, ih]
    cases step.move run.reachable.length_errands_le with
    | keep hands noneHanded pending =>
      rw [hands, inv.lineUp_self, noneHanded, pending]
      simp
    | take hand batch empty hands noneHanded noneRecorded pending =>
      rw [hands, noneHanded, noneRecorded, pending]
      rcases eq_or_ne batch [] with rfl | some
      · rw [← empty, Function.update_eq_self, inv.lineUp_self, empty]
        simp
      · rw [inv.lineUp_taken empty some, List.flatMap_append,
          flatMap_update_of_not_mem (by simp [inv.mem_iff, empty])]
        simp
    | give hand hands given noneRecorded pending =>
      rw [hands, given, noneRecorded, pending]
      -- Whoever comes back with nothing in hand was not in the line.
      by_cases empty : s.inHand hand = []
      · rw [← empty, Function.update_eq_self, inv.lineUp_self, empty]
        simp
      · obtain ⟨rest, rfl⟩ := List.head?_eq_some_iff.1 (inOrder hand empty (by simp [hands]))
        rw [inv.lineUp_handed, flatMap_update_of_not_mem (List.nodup_cons.1 inv.nodup).1]
        simp

theorem InTurn.isPrefix (h : InTurn store trace s line) : handed trace <+: recorded trace := by
  rw [h.recorded_eq, List.append_assoc]
  exact List.prefix_append ..

/-! ## Out of turn -/

theorem Step.handed_of_emptied (h : Step store s marks t) (single : s.errands.length ≤ 1)
    (held : s.inHand hand ≠ []) (gone : t.inHand hand = []) :
    handed marks = s.inHand hand ∧ recorded marks = [] := by
  cases h.move single with
  | keep hands => exact absurd (hands ▸ gone) held
  | take other batch empty hands =>
    by_cases same : hand = other
    · exact absurd (same ▸ empty) held
    · rw [hands, Function.update_of_ne same] at gone
      exact absurd gone held
  | give other hands given noneRecorded =>
    by_cases same : hand = other
    · exact ⟨same ▸ given, noneRecorded⟩
    · rw [hands, Function.update_of_ne same] at gone
      exact absurd gone held

/-- What is out of order stays so. -/
theorem Reachable.isPrefix_of_append (h : Reachable store trace s) (xs : List RecorderMark)
    (whole : handed (trace ++ xs) <+: recorded (trace ++ xs)) : handed trace <+: recorded trace := by
  have fewer : (handed trace).length ≤ (recorded trace).length := by
    rw [h.conserved.length_eq, List.append_assoc, List.length_append]
    omega
  rw [handed_append, recorded_append] at whole
  exact List.prefix_of_prefix_length_le ((List.prefix_append ..).trans whole) (List.prefix_append ..) fewer

/-- Entries that are told apart show when a batch comes before an older one. -/
theorem InTurn.inOrderStep (h : InTurn store trace s line) (step : Step store s marks t)
    (distinct : (recorded (trace ++ marks)).Nodup) (order : handed (trace ++ marks) <+: recorded (trace ++ marks)) :
    InOrderStep line s t := by
  intro hand held gone
  obtain ⟨given, noneRecorded⟩ := step.handed_of_emptied h.reachable.length_errands_le held gone
  rw [recorded_append, noneRecorded, List.append_nil, h.recorded_eq] at order distinct
  rw [handed_append, given, List.append_assoc, List.prefix_append_right_inj] at order
  have here : hand ∈ line := (h.lined.mem_iff hand).2 held
  match line with
  | [] => simp at here
  | first :: rest =>
    by_contra other
    have later : hand ∈ rest := by
      rcases List.mem_cons.1 here with rfl | later
      · exact absurd rfl other
      · exact later
    -- The batch that was given and the one that was due begin with the same entry.
    obtain ⟨entry, more, batch⟩ := List.exists_cons_of_ne_nil held
    obtain ⟨due, others, oldest⟩ := List.exists_cons_of_ne_nil ((h.lined.mem_iff first).1 List.mem_cons_self)
    obtain ⟨rfl, -⟩ : entry = due ∧ _ := by simpa [batch, oldest, List.cons_prefix_cons] using order
    have twice : entry ∈ rest.flatMap s.inHand := List.mem_flatMap.2 ⟨hand, later, by simp [batch]⟩
    simp only [List.flatMap_cons, oldest, List.cons_append, List.append_assoc] at distinct
    exact (List.nodup_cons.1 (List.nodup_append.1 distinct).2.1).1 (by simp [twice])

theorem Reachable.inTurn (h : Reachable store trace s) (distinct : (recorded trace).Nodup)
    (order : handed trace <+: recorded trace) : ∃ line, InTurn store trace s line := by
  induction h with
  | new size loopTime state => exact ⟨[], .new size loopTime state⟩
  | @step trace marks s t before step ih =>
    have earlier : (recorded trace).Nodup := by
      rw [recorded_append] at distinct
      exact (List.nodup_append.1 distinct).1
    obtain ⟨line, run⟩ := ih earlier (before.isPrefix_of_append marks order)
    exact ⟨_, run.step step (run.inOrderStep step distinct order)⟩

/-- While no flush is under way only one hand can hold a batch, for a stop waits for its worker before it takes. -/
theorem Held.one_hand (inv : Held s) (noFlush : ∀ batch, s.control ≠ .storing false batch) :
    ∃ only, ∀ hand, s.inHand hand ≠ [] → hand = only := by
  cases control : s.control with
  | storing stopping batch =>
    cases stopping with
    | false => exact absurd control (noFlush batch)
    | true =>
      have nobody := inv.errands_eq_nil (by rw [control]; rfl) (by rw [control]; rfl)
      refine ⟨.caller, fun hand holds => ?_⟩
      cases hand with
      | worker => simp [inHand, nobody, carried] at holds
      | caller => rfl
  | _ =>
    refine ⟨.worker, fun hand holds => ?_⟩
    cases hand with
    | worker => rfl
    | caller => simp [inHand, control, Control.batch] at holds

theorem InTurn.inOrderStep_of_no_flush (h : InTurn store trace s line)
    (noFlush : ∀ batch, s.control ≠ .storing false batch) : InOrderStep line s t := by
  intro hand held gone
  obtain ⟨only, alone⟩ := h.reachable.held.one_hand noFlush
  have here : hand ∈ line := (h.lined.mem_iff hand).2 held
  match line with
  | [] => simp at here
  | first :: rest =>
    have holds : s.inHand first ≠ [] := (h.lined.mem_iff first).1 List.mem_cons_self
    rw [List.head?_cons, alone first holds, alone hand held]

/-! ## The result -/

/-- The store has been given the oldest entries in the order in which they were recorded, if whoever took a batch
first also stored it first, and where entries can be told apart only then. While no flush is under way, every step
keeps the order. -/
theorem handed_isPrefix_iff_inTurn (h : Reachable store trace s) :
    (∀ line, InTurn store trace s line → handed trace <+: recorded trace ∧
      ∀ marks t, Step store s marks t → (∀ batch, s.control ≠ .storing false batch) →
        ∃ line, InTurn store (trace ++ marks) t line) ∧
    ((recorded trace).Nodup → handed trace <+: recorded trace → ∃ line, InTurn store trace s line) := by
  refine ⟨fun line run => ⟨run.isPrefix, ?_⟩, h.inTurn⟩
  intro marks t step noFlush
  exact ⟨_, run.step step (run.inOrderStep_of_no_flush noFlush)⟩

/-- A worker has taken a full batch and is about to store it, when another entry comes and a flush takes that. -/
def crossing : LiveRecorder Nat :=
  pairing [] [⟨.working, false, 1⟩] (some 0) 0 [(0, .carrying [sample 0, sample 1])] (.storing false [sample 2])

theorem inTurn_crossing : ∃ trace, InTurn counting trace crossing [.worker, .caller] ∧
    recorded trace = [sample 0, sample 1, sample 2] ∧ handed trace = [] := by
  have next {trace marks : List RecorderMark} {s t : LiveRecorder Nat} {line : List Hand}
      (run : InTurn counting trace s line) (step : Step counting s marks t) (free : s.control = .free) :
      InTurn counting (trace ++ marks) t (lineUp t.inHand line) :=
    run.step step (run.inOrderStep_of_no_flush (by simp [free]))
  have delivered := next (next (.new 2 .zero 0) (.deliver _ none ⟨0, 0, 0, 0⟩ (.anonymous .windData)) rfl)
    (.deliver _ none ⟨0, 0, 0, 1⟩ (.anonymous .windData)) rfl
  have looking := next (next (next delivered (.start _ _ rfl rfl) rfl) (.enter _ 0 rfl) rfl)
    (.look _ 0 rfl List.not_mem_nil) rfl
  have taken := next looking (.take _ 0 2 List.mem_cons_self (Nat.le_refl 2)) rfl
  have flushing := next (next taken (.deliver _ none ⟨0, 0, 0, 2⟩ (.anonymous .windData)) rfl) (.flush _ rfl) rfl
  exact ⟨_, flushing, rfl, rfl⟩

/-- Here the worker stores its batch before the flush does. -/
theorem handed_isPrefix_iff_inTurn_crossing : ∃ trace s, Reachable counting trace s ∧
    InTurn counting trace s [] ∧ handed trace = [sample 0, sample 1, sample 2] ∧
    (∀ line, InTurn counting trace s line → handed trace <+: recorded trace ∧
      ∀ marks t, Step counting s marks t → (∀ batch, s.control ≠ .storing false batch) →
        ∃ line, InTurn counting (trace ++ marks) t line) ∧
    ((recorded trace).Nodup → handed trace <+: recorded trace → ∃ line, InTurn counting trace s line) := by
  obtain ⟨trace, run, all, none⟩ := inTurn_crossing
  have older := run.step (.hand _ 0 [sample 0, sample 1] List.mem_cons_self) <| by
    intro hand held gone
    cases hand with
    | worker => rfl
    | caller => exact absurd gone (by decide)
  have newer := older.step (.store _ false [sample 2] 2 rfl rfl) <| by
    intro hand held gone
    cases hand with
    | worker => exact absurd rfl held
    | caller => rfl
  exact ⟨_, _, newer.reachable, newer, by simp [none], handed_isPrefix_iff_inTurn newer.reachable⟩

/-- Here the flush stores the newer entry first. -/
theorem newer_before_older : ∃ trace s, Reachable counting trace s ∧
    recorded trace = [sample 0, sample 1, sample 2] ∧ handed trace = [sample 2] ∧
    ¬ handed trace <+: recorded trace := by
  obtain ⟨trace, run, all, none⟩ := inTurn_crossing
  have stored := run.reachable.step (.store _ false [sample 2] 1 rfl rfl)
  refine ⟨_, _, stored, by simp [all], by simp [none], ?_⟩
  simp only [recorded_append, handed_append, recorded_handing, handed_handing, recorded_said, handed_said,
    recorded_returning, handed_returning, all, none]
  decide

end LiveRecorder

end VesselBus
