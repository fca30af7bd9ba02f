import TronLedger.Moves
import TronLedger.Device

/-!
# One answer to every frame

Every frame the app receives is settled once, by a reply or because the app quits, at once or
by the answer to the review it starts.
-/

namespace TronLedger

/-- A reply, or the end of the app. -/
def Effect.settles : Effect → Bool
  | .reply _ _ | .exit => true
  | _ => false

/-- An event the app has to settle. -/
def Event.isFrame : Event → Bool
  | .apdu _ | .badFrame | .ioReset => true
  | _ => false

section

variable {σ κ : Type}

/-- The frame whose answer a review is waiting for. -/
def Session.waiting (s : Session σ κ) : Nat := if s.pending.isSome then 1 else 0

/-- The news settle one frame, unless it waits. -/
def Settles (news : List Effect) (s' : Session σ κ) : Prop := news.countP Effect.settles + s'.waiting = 1

variable {sdk : Sdk σ κ} {version : AppVersion} {s v s' : Session σ κ} {c : Command} {news : List Effect}
  {payload : Bytes}

theorem Settles.after {first : List Effect} (settles : Settles news s')
    (silent : first.countP Effect.settles = 0) : Settles (news ++ first) s' := by
  rw [Settles, List.countP_append, silent, Nat.add_zero]
  exact settles

theorem Settles.atOnce (idle : s'.pending = none) (one : news.countP Effect.settles = 1) : Settles news s' := by
  rw [Settles, Session.waiting, idle, one]
  rfl

theorem signEnd_settles (idle : s.pending = none) (ends : SignEnd sdk s news s') : Settles news s' := by
  cases ends with
  | reviewing => rfl
  | _ => exact .atOnce (by exact idle) rfl

theorem signParse_settles (idle : s.pending = none) (parse : SignParse sdk c payload s news s') : Settles news s' := by
  cases parse with
  | acknowledged => exact .atOnce (by exact idle) rfl
  | faulted => exact .atOnce (by exact idle) rfl
  | finalises _ ends => exact (signEnd_settles (by exact idle) ends).after rfl

theorem signMove_settles (idle : s.pending = none) (moved : SignMove sdk c s news s') : Settles news s' := by
  cases moved with
  | early => exact .atOnce (by exact idle) rfl
  | enters _ entry chunk =>
    rename_i first rest v payload
    have entered : v.pending = none ∧ first.countP Effect.settles = 0 := by
      cases entry <;> exact ⟨idle, rfl⟩
    obtain ⟨idle, silent⟩ := entered
    refine Settles.after ?_ silent
    cases chunk with
    | closed => exact .atOnce (by exact idle) rfl
    | exits => exact .atOnce (by exact idle) rfl
    | parses _ _ parse => exact (signParse_settles (by exact idle) parse).after rfl
    | swapParses _ _ _ parse => exact (signParse_settles (by exact idle) parse).after rfl

theorem messageMove_settles (idle : s.pending = none) (moved : MessageMove sdk c s news s') : Settles news s' := by
  cases moved with
  | refused => exact .atOnce (by exact idle) rfl
  | badOpening => exact .atOnce (by exact idle) rfl
  | enters entry chunk =>
    rename_i first rest v content
    have entered : v.pending = none ∧ first.countP Effect.settles = 0 := by
      cases entry <;> exact ⟨idle, rfl⟩
    obtain ⟨idle, silent⟩ := entered
    refine Settles.after ?_ silent
    cases chunk with
    | badP2 => exact .atOnce (by exact idle) rfl
    | tooLong => exact .atOnce (by exact idle) rfl
    | absorbs => exact .atOnce (by exact idle) rfl
    | completes _ _ _ ends =>
      refine Settles.after ?_ rfl
      cases ends with
      | failed => exact .atOnce (by exact idle) rfl
      | reviewing => rfl

theorem otherMove_settles (idle : s.pending = none) (moved : OtherMove c s news s') : Settles news s' := by
  obtain ⟨hash, ends⟩ := moved
  cases ends with
  | replied => exact .atOnce (by exact idle) rfl
  | reviewing => rfl
  | verifying => rfl

/-- One event settles what was waiting, or the frame it brings. -/
theorem move_settles {e : Event} (moved : Move sdk s e news s') :
    news.countP Effect.settles + s'.waiting = s.waiting + if e.isFrame then 1 else 0 := by
  cases moved with
  | @apdu c idle news s' moved =>
    have settled : Settles (news ++ [.apdu c]) s' := by
      refine Settles.after ?_ rfl
      cases moved with
      | sign _ moved => exact signMove_settles idle moved
      | message _ _ moved => exact messageMove_settles idle moved
      | other _ _ moved => exact otherMove_settles idle moved
    have before : s.waiting = 0 := by rw [Session.waiting, idle]; rfl
    rw [settled, before]
    rfl
  | answer confirm asked moved =>
    have before : s.waiting = 1 := by rw [Session.waiting, asked]; rfl
    rw [before]
    cases moved <;> rfl
  | badFrame idle => simp [Session.waiting, Effect.settles, Event.isFrame, idle]
  | toggleSetting idle => simp [Session.waiting, Event.isFrame, idle]
  | setContacts idle => simp [Session.waiting, Event.isFrame, idle]
  | ioReset idle => simp [Session.waiting, Session.terminated, Effect.settles, Event.isFrame, idle]

/-- **No frame is lost or answered twice.** After every run, in a swap as well, the replies are as many as the frames
that were received, but for the one a review is waiting with and the one the app has quit at. -/
theorem frames_settled {b : Boot} {es : List Event} {w : World σ κ} (run : AppRun sdk version anyStep b es w) :
    w.trace.countP Effect.settles + w.session.waiting = es.countP Event.isFrame := by
  induction run with
  | start => rfl
  | @next es w w' e run _ stepped ih =>
    obtain ⟨-, news, trace, moved⟩ := step_moves sdk version w stepped
    have settled := move_settles moved
    rw [trace, List.countP_append, List.countP_append, ← ih]
    have one : [e].countP Event.isFrame = if e.isFrame then 1 else 0 := by
      rw [List.countP_cons, List.countP_nil, Nat.zero_add]
    omega

end

/-- A frame that waits, one that is refused and one that was answered. -/
theorem frames_settled_three : ∃ w, AppRun device deviceVersion anyStep deviceBoot
    [.badFrame, command Ins.getAppConfiguration 0 0 [], command Ins.sign P1.sign 0 (pathBytes 0 ++ sampleTransfer)] w ∧
      w.trace.countP Effect.settles + w.session.waiting = 3 := by
  obtain ⟨w, run, -⟩ := Run.exists_of_exec (step device deviceVersion) anyStep (boot device deviceBoot)
    [.badFrame, command Ins.getAppConfiguration 0 0 [], command Ins.sign P1.sign 0 (pathBytes 0 ++ sampleTransfer)]
    (fun _ => true) (by decide +kernel)
  exact ⟨w, run, frames_settled run⟩

end TronLedger
