import DicodeRelay.Client.Ledger

/-!
Contract: the reports of a connection.

Owns:
- that a connection's status keeps the URL it was constructed with, and that
  each of its reports bears that URL;
- that a connection forgets nothing it has done.

Does not own: what the reports say besides the URL.
-/

namespace DicodeRelay.Client

open DicodeRelay.Lib DicodeRelay.Shared

/-- What some code does to the status and the log: the status keeps its URL, and
the effects that are added report that URL only. -/
structure Reporting (s t : State) : Prop where
  serverURL : t.status.serverURL = s.status.serverURL
  grows : ∃ more, t.log = s.log ++ more ∧
    ∀ report ∈ more.filterMap Effect.reported, report.serverURL = s.status.serverURL

namespace Reporting

variable {s t u : State}

theorem refl (s : State) : Reporting s s := ⟨rfl, [], by simp, by simp⟩

theorem trans (first : Reporting s t) (second : Reporting t u) : Reporting s u := by
  obtain ⟨more, grown, own⟩ := first.grows
  obtain ⟨more', grown', own'⟩ := second.grows
  refine ⟨second.serverURL.trans first.serverURL, more ++ more', ?_, ?_⟩
  · rw [grown', grown, List.append_assoc]
  · intro report member
    rw [List.filterMap_append] at member
    rcases List.mem_append.mp member with earlier | later
    · exact own report earlier
    · exact (own' report later).trans first.serverURL

/-- Changes of neither the status nor the log. -/
theorem congr (here : Reporting s t) (status : u.status = t.status) (log : u.log = t.log) :
    Reporting s u := by
  obtain ⟨more, grown, own⟩ := here.grows
  exact ⟨status ▸ here.serverURL, more, log.trans grown, own⟩

/-- Code that reports nothing leaves the status alone too. -/
theorem aside (here : Reporting s t) (aside : Aside t u) : Reporting s u := by
  obtain ⟨more, grown, quiet, _⟩ := aside.log
  refine here.trans ⟨congrArg RelayEndpointStatus.serverURL aside.status, more, grown, ?_⟩
  rw [quiet]
  simp

theorem setStatus (here : Reporting s t) (status : RelayEndpointStatus)
    (same : status.serverURL = t.status.serverURL) : Reporting s (t.setStatus status) :=
  ⟨same.trans here.serverURL, here.grows⟩

theorem emit (here : Reporting s t) {effect : Effect} (quiet : effect.reported = none)
    (passes : effect.dispatched = none) : Reporting s (t.emit effect) :=
  here.aside ((Aside.refl t).emit quiet passes)

theorem report (here : Reporting s t) : Reporting s t.report := by
  refine here.trans ⟨rfl, [.report t.status], rfl, ?_⟩
  simp [Effect.reported]

theorem connect (opts : ConnectionOptions) (here : Reporting s t) (result : HandshakeResult) :
    Reporting s (opts.connect t result) := by
  have replayed := here.aside ((Aside.refl t).replay opts)
  have reported := (replayed.setStatus ((opts.replay t).status.connect result
    (opts.replay t).now) rfl).report
  exact reported.aside (aside_connect opts t result)

theorem disconnect (here : Reporting s t) (outcome : Option RunError) :
    Reporting s (t.setStatus (t.status.disconnect outcome)).report := by
  have same : (t.status.disconnect outcome).serverURL = t.status.serverURL := by
    cases outcome <;> rfl
  exact (here.setStatus _ same).report

theorem setBackoff (here : Reporting s t) (backoff : Nat) : Reporting s (t.setBackoff backoff) :=
  here.congr rfl rfl

theorem endAttempt (here : Reporting s t) (outcome : Option RunError) :
    Reporting s (t.endAttempt outcome) := by
  cases outcome with
  | none =>
      unfold State.endAttempt
      dsimp only
      split
      · exact (here.setBackoff INITIAL_MS).disconnect none
      · exact here.disconnect none
  | some err => exact (here.disconnect (some err)).emit rfl rfl

theorem backOff (here : Reporting s t) (outcome : Option RunError) (draw : Rat) :
    Reporting s (t.backOff outcome draw) :=
  ((here.endAttempt outcome).setBackoff _).aside ((Aside.refl _).sleep _)

end Reporting

/-- What one event does to the status and the log. -/
theorem reporting_of_step {opts : ConnectionOptions} {s s' : State} {e : Event}
    (after : opts.step s e = some s') : Reporting s s' := by
  have here := Reporting.refl s
  cases ledger_of_step opts after with
  | aside aside _ _ =>
      have undispatched : Reporting s { s with dispatching := e.undispatched s.dispatching } :=
        here.congr rfl rfl
      exact undispatched.aside aside
  | ticked _ equal => exact equal ▸ here.congr rfl rfl
  | started _ _ _ equal => exact equal ▸ here.congr rfl rfl
  | connected _ equal => exact equal ▸ here.connect opts _
  | backedOff _ _ _ equal => exact equal ▸ here.backOff _ _

end DicodeRelay.Client
