import SpriteStage.Proofs.Queues.Ledger
import SpriteStage.Proofs.Stage.CollisionPass

/-!
# The history of the queues of a stage

What happens to the queues of a stage is a sequence of edits, and it can be read off from the calls,
their answers and what was reported. The module introduces:

* `Call.queueEdits`, `Reply.queueEdits` and `Event.queueEdit?`: an edit that is asked for, the queue
  of a new tab, and the exchange that answers a direct report;
* `Stage.queueEdits`: all edits of one call, in order.

`queues_perform` says that the queues change by these edits and by nothing else, and
`queues_performAll` that those of a run are what all its edits make of an empty store.
`queues_follow_ledger` joins this with what a ledger tells about edits.
-/

namespace SpriteStage

open scoped List

/-- The edit that a call asks for. -/
def Call.queueEdits : Call → List QueueEdit
  | append id command => [.append id command]
  | deleteAt id place => [.deleteAt id place]
  | swap a b => [.swap a b]
  | _ => []

/-- A tab that was added gets a queue. -/
def Reply.queueEdits : Reply → List QueueEdit
  | tab (some id) => [.ensure id]
  | _ => []

/-- A direct report is answered by an exchange. -/
def Event.queueEdit? (event : Event) : Option QueueEdit :=
  event.direct?.map fun pair => .swap pair.1 pair.2

/-- Direct reports are answered by exchanges, in the order of the reports. -/
theorem Board.queues_foldl_react_eq (board : Board) (reports : List Collision) :
    (reports.foldl react board).queues = board.queues.editAll
      ((reports.filter (!·.reversed)).map fun report => .swap report.first report.second) := by
  induction reports generalizing board with
  | nil => rfl
  | cons report reports ih =>
    rw [List.foldl_cons, ih, react]
    cases h : report.reversed with
    | true => simp [h]
    | false => simp [h, Queues.editAll, Queues.edit]

namespace Stage

/-- Everything that a call does to the queues, in order. -/
def queueEdits (stage : Stage) (call : Call) : List QueueEdit :=
  call.queueEdits ++ (stage.perform call).reply.queueEdits ++
    (stage.perform call).events.filterMap Event.queueEdit?

/-! ## One call -/

/-- A tick exchanges queues on its direct reports, and does nothing else to them. -/
theorem queues_tick (stage : Stage) (dt : Float32) :
    (stage.tick dt).1.queues =
      stage.queues.editAll ((stage.tick dt).2.filterMap Event.queueEdit?) := by
  have hedits : (stage.tick dt).2.filterMap Event.queueEdit? =
      ((stage.watched dt).pass.2.filter (!·.reversed)).map fun report =>
        .swap report.first report.second := by
    have hmap := List.map_filterMap (f := Event.direct?)
      (g := fun pair => QueueEdit.swap pair.1 pair.2) (l := (stage.tick dt).2)
    rw [direct_tick, List.map_map] at hmap
    exact hmap.symm
  have hqueues := (stage.watched_frame dt).2.1
  rw [hedits, queues, board_tick]
  cases h : (stage.watched dt).isAwake with
  | false =>
    -- A board that sleeps reports nothing, and its queues are not touched.
    rw [Board.pass_of_asleep h]
    exact hqueues
  | true =>
    rw [Board.pass_of_awake h, Board.queues_foldl_react_eq]
    exact congrArg (fun queues : Queues => queues.editAll _) hqueues

/-- Opening a playback leads to no exchange. -/
theorem queueEdits_start (stage : Stage) (script : Script) :
    (stage.start script).2.2.filterMap Event.queueEdit? = [] := by
  simp only [start, Performance.start]
  split
  · rfl
  · rfl

/-- A call that asks for neither an edit nor a tab leaves the queues alone, unless time passes. -/
theorem queues_edit_of_nil {stage stage' : Stage} {call : Call} (hedit : stage.Edit call stage')
    (hcall : call.queueEdits = []) (htab : call.asksForTab = false) :
    stage'.queues = stage.queues := by
  cases hedit with
  | addTab sprite hadd _ => rcases hadd with rfl | rfl <;> cases htab
  | removeTab _ hboard =>
    obtain ⟨_, -, rfl⟩ := rows_remove? hboard
    rfl
  | append | deleteAt | swap => cases hcall
  | _ => rfl

/-- A new tab comes with its queue. -/
theorem queues_attemptTab (stage : Stage) (sprite : SpriteId) :
    (stage.attemptTab (stage.addTabFor? sprite)).stage.queues = stage.queues.editAll
      (stage.attemptTab (stage.addTabFor? sprite)).reply.queueEdits := by
  rw [addTabFor?_eq]
  split
  · rfl
  · rfl

/-- An edit of the queues that is refused leaves them as they are. -/
theorem queues_getD_map_withQueues (stage : Stage) (next : Option Queues) :
    ((next.map stage.withQueues).getD stage).queues = next.getD stage.queues := by
  cases next <;> rfl

/-- The queues change by what a call asks for, by the queue of a new tab and by exchanges on direct
reports. -/
theorem queues_perform (stage : Stage) (call : Call) :
    (stage.perform call).stage.queues = stage.queues.editAll (stage.queueEdits call) := by
  -- Edits report nothing, so exchanges come from calls in which time passes.
  have hquiet (hedit : call.isEdit = true) : stage.queueEdits call =
      call.queueEdits ++ (stage.perform call).reply.queueEdits := by
    rw [queueEdits, events_perform_of_isEdit stage hedit]
    exact List.append_nil _
  have hplay (script : Script) : (stage.playScript script).2.1.queues = stage.queues.editAll
      ((stage.playScript script).2.2.filterMap Event.queueEdit?) := by
    rw [playScript_eq, List.filterMap_append, queueEdits_start]
    exact queues_tick _ 0
  cases call with
  | append id command => rfl
  | deleteAt id place =>
    rw [hquiet rfl, perform, stage_attempt, deleteAt?, queues_getD_map_withQueues]
    rfl
  | swap a b =>
    rw [hquiet rfl, perform, stage_attempt, swap?, queues_getD_map_withQueues]
    rfl
  | addTab =>
    rw [hquiet rfl, perform, addTab?]
    cases stage.cast.current with
    | none => rfl
    | some sprite => exact stage.queues_attemptTab sprite
  | addTabFor sprite =>
    rw [hquiet rfl]
    exact stage.queues_attemptTab sprite
  | start script =>
    rw [queueEdits, stage_perform_start, events_perform_start, queueEdits_start]
    rfl
  | playScript script => exact hplay script
  | play => exact hplay stage.queues.script
  | tick dt => exact stage.queues_tick dt
  | _ =>
    rw [hquiet rfl]
    exact queues_edit_of_nil (edit_perform stage rfl) rfl rfl

/-! ## Runs -/

/-- The edits of calls, one after the other, make the queues that they lead to. -/
theorem queues_performAll (stage : Stage) (calls : List Call) :
    (stage.performAll calls).1.queues = stage.queues.editAll (stage.collect queueEdits calls) := by
  induction calls generalizing stage with
  | nil => rfl
  | cons call calls ih =>
    rw [collect, Queues.editAll_append, ← queues_perform]
    exact ih _

/-- Everything that is done to the queues from a bare stage on until all calls are done. -/
def queueHistory (settings : Settings) (calls : List Call) : List QueueEdit :=
  (bare settings).collect queueEdits (setup settings ++ calls)

theorem queues_after (settings : Settings) (calls : List Call) :
    (after settings calls).queues = ({} : Queues).editAll (queueHistory settings calls) := by
  rw [after_eq_performAll, queues_performAll]
  rfl

/-- A history goes on where it was. -/
theorem queueHistory_append (settings : Settings) (calls more : List Call) :
    queueHistory settings (calls ++ more) =
      queueHistory settings calls ++ (after settings calls).collect queueEdits more := by
  rw [queueHistory, ← List.append_assoc, collect_append, ← after_eq_performAll]
  rfl

/-! ## Main statement -/

/-- The store of queues loses nothing and doubles nothing, and its revision tells its contents.
After any edits, every id has the queue that the ledger gives it, and an id that has a queue keeps
one whatever edits follow. The commands in the store and those that were removed are the ones that
were appended, each as often. The revision is the number of edits that were effective; an edit that
is not changes nothing, and further edits that end at the same revision end with the same store. On
a stage, the queues are what its history makes of an empty store, so at two moments of a run that
have one revision all queues are the same. -/
theorem queues_follow_ledger :
    (∀ edits : List QueueEdit,
      let queues := ({} : Queues).editAll edits
      let ledger := Ledger.empty.editAll edits
      (∀ id : ActionId, queues.script[id]? = ledger id) ∧
      queues.stored ++ Ledger.empty.removed edits ~ edits.flatMap QueueEdit.appended ∧
      queues.revision = Ledger.empty.changes edits ∧
      (∀ edit, ¬ ledger.Effective edit → queues.edit edit = queues) ∧
      ∀ more : List QueueEdit,
        (∀ id, queues.contains id = true → (queues.editAll more).contains id = true) ∧
        ((queues.editAll more).revision = queues.revision → queues.editAll more = queues)) ∧
    ∀ (settings : Settings) (calls more : List Call),
      let stage := after settings calls
      let stage' := after settings (calls ++ more)
      stage.queues = ({} : Queues).editAll (queueHistory settings calls) ∧
      (stage'.queues.revision = stage.queues.revision → stage'.queues = stage.queues) := by
  refine ⟨fun edits => ?_, fun settings calls more => ⟨queues_after settings calls, fun h => ?_⟩⟩
  · intro queues ledger
    have hledger : queues.ledger = ledger := Queues.ledger_editAll {} edits
    refine ⟨congrFun hledger, ?_, ?_, fun edit hedit => ?_, fun more => ⟨fun id hid => ?_, ?_⟩⟩
    · exact Queues.stored_editAll_perm {} edits
    · exact (Queues.revision_editAll {} edits).trans (Nat.zero_add _)
    · exact Queues.edit_of_not_effective (hledger ▸ hedit)
    · exact Queues.contains_editAll hid more
    · exact Queues.editAll_eq_of_revision_eq
  · rw [queues_after, queueHistory_append, Queues.editAll_append, ← queues_after] at h ⊢
    exact Queues.editAll_eq_of_revision_eq h

end Stage

end SpriteStage
