import ChipVm.Proofs.Machine.Failures
import ChipVm.Proofs.Machine.Frames
import ChipVm.Proofs.Session.Conduct
import ChipVm.Proofs.Texture.Upload
import Mathlib.Data.List.Chain

/-!
# The screen in the window

The window shows what is on the screen of the machine.  A machine remembers whether its screen has
changed since it was last taken, and a pass begins by taking it: a screen that is due is presented,
and one that is not due is in the window already.  So whenever events are asked for, the texture
presented last shows the screen as it is then.

No more textures are presented than this takes.  What makes a screen due is a program that is taken
in, started over or given another state, or an instruction that changes a cell; and the textures are
as many as the passes before which, back to the pass before, one of these took place.

* `Session.refreshes`, `Session.refreshed_of_goesOn` — what brings a new screen.
* `Session.trail`, `Session.showings` — what took place in a run, and between its showings.
* `Session.size_presented_eq` — how many textures are presented.
* **`Session.window_current`** — what is in the window when events are asked for.
-/

namespace ChipVm

/-! ## What brings a new screen -/

namespace Machine

lemma tick_refreshed (m : Machine) (random : UInt8) (log : Log) :
    Refreshed (decide ((m.tick random log).machine.state.display ≠ m.state.display)) m
      (m.tick random log).machine := by
  obtain ⟨_, hcpu⟩ := m.exists_advanceCpu_eq random log
  rw [tick, hcpu]
  rcases m.state.cycle ⟨m.keys, random⟩ with fault | next
  · simpa using m.refreshed_self
  · obtain ⟨hdisplay, hdue⟩ := advanceTimers_display { m with
      state := next, frameDue := m.frameDue || decide (next.display ≠ m.state.display) }
    dsimp only at hdisplay hdue ⊢
    rw [hdisplay]
    exact ⟨hdue, fun h => hdisplay.trans (by simpa using h)⟩

end Machine

namespace Session

variable (s : Session)

/-- Whether the file of the session holds a text that is accepted. -/
def loadable : Bool :=
  match s.disk.readText s.stateFile with
  | .ok text => (State.restore text).isOk
  | .error _ => false

/-- Whether an act brings a new screen: a program is taken in or started over, a state is loaded, or
an instruction changes a cell. -/
def refreshes : Act → Bool
  | .loadProgram path => decide ((loadProgram path s).1 = .goesOn)
  | .handle e => decide (e = .restart ∧ (restart s).1 = .goesOn) || decide (e = .load) && s.loadable
  | .advance random =>
      decide ((advance random s).2.machine.state.display ≠ s.machine.state.display)
  | _ => false

lemma loadProgram_refreshed (path : String) :
    Machine.Refreshed (s.refreshes (.loadProgram path)) s.machine
      (loadProgram path s).2.machine := by
  rw [refreshes, loadProgram]
  split
  · exact s.machine.refreshed_self
  · rename_i bytes hread
    rcases Nat.lt_or_ge maxRomSize bytes.toList.length with hlarge | hfits
    · simp only [Machine.loadRom_of_lt hlarge]
      exact s.machine.refreshed_self
    · simp only [Machine.loadRom_of_le hfits]
      exact s.machine.refreshed_of_frameDue rfl

lemma restart_refreshed :
    Machine.Refreshed (decide ((restart s).1 = .goesOn)) s.machine (restart s).2.machine := by
  rw [restart, Machine.reset]
  rcases Nat.lt_or_ge maxRomSize s.machine.rom.length with hlarge | hfits
  · simp only [Machine.loadRom_of_lt hlarge]
    exact ⟨(Bool.or_false _).symm, fun _ => rfl⟩
  · simp only [Machine.loadRom_of_le hfits]
    exact s.machine.refreshed_of_frameDue rfl

lemma loadState_refreshed : Machine.Refreshed s.loadable s.machine (loadState s).2.machine := by
  rw [loadable, loadState]
  rcases s.disk.readText s.stateFile with fault | text
  · exact s.machine.refreshed_self
  · dsimp only
    rw [Machine.restore]
    rcases State.restore text with fault | state
    · exact s.machine.refreshed_self
    · exact s.machine.refreshed_of_frameDue rfl

lemma handle_refreshed (e : Event) :
    Machine.Refreshed (s.refreshes (.handle e)) s.machine (handle e s).2.machine := by
  rw [refreshes]
  have h := handling e
  generalize handle e = f at h ⊢
  cases h with
  | pause => simpa using s.machine.refreshed_self
  | step => simpa using s.machine.refreshed_self
  | resume => simpa using s.machine.refreshed_self
  | restart => simpa using s.restart_refreshed
  | save => simpa [saveState_machine] using s.machine.refreshed_self
  | load => simpa using s.loadState_refreshed
  | other he hf =>
      obtain ⟨_, _, h⟩ := hf s
      simp only [Event.commands, List.mem_cons, not_or] at he
      simp only [h, he, false_and, decide_false, Bool.false_and, Bool.or_false]
      exact ⟨(Bool.or_false _).symm, fun _ => rfl⟩

lemma advance_refreshed (random : UInt8) :
    Machine.Refreshed (s.refreshes (.advance random)) s.machine (advance random s).2.machine := by
  rw [refreshes, advance_machine]
  split_ifs
  · exact s.machine.tick_refreshed random s.log
  · simpa using s.machine.refreshed_self

variable {s} {t : Session}

/-- **Unless the screen is shown, it becomes due exactly if an act brings a new one.** -/
theorem refreshed_of_goesOn {a : Act} (ha : a ≠ .showFrame) (h : a.stage s = (.goesOn, t)) :
    Machine.Refreshed (s.refreshes a) s.machine t.machine := by
  have ht : (a.stage s).2 = t := congrArg Prod.snd h
  rw [← ht]
  cases a with
  | loadProgram path => exact s.loadProgram_refreshed path
  | openWindow scale => exact s.openWindow_machine scale ▸ s.machine.refreshed_self
  | openEvents => exact s.openEvents_machine ▸ s.machine.refreshed_self
  | concludeStart => exact s.concludeStart_machine ▸ s.machine.refreshed_self
  | showFrame => exact absurd rfl ha
  | poll => exact s.machine.refreshed_self
  | handle event => exact s.handle_refreshed event
  | advance random => exact s.advance_refreshed random
  | concludeStep => exact s.concludeStep_machine ▸ s.machine.refreshed_self

/-! ## Showing the screen -/

/-- The texture that shows the screen of a session. -/
def texture (s : Session) : Array UInt8 :=
  Texture.upload s.machine.state.display s.windowSystem.pitch s.windowSystem.newTexture

/-- A screen that is due is presented, and then it is not due any longer. -/
lemma showFrame_cases (h : showFrame s = (.goesOn, t)) :
    t.machine = { s.machine with frameDue := false } ∧
      t.windowSystem.presented =
        if s.machine.frameDue then s.windowSystem.presented.push s.texture
        else s.windowSystem.presented := by
  rw [showFrame, Machine.takeFrame] at h
  rcases hdue : s.machine.frameDue with _ | _
  · rw [hdue] at h
    cases h
    exact ⟨by rw [← hdue], rfl⟩
  · rw [hdue] at h
    rcases s.windowSystem.exists_present_eq s.machine.state.display with ⟨_, hp⟩ | ⟨_, hp⟩
    · simp [hp] at h
    · simp only [if_true, hp] at h
      cases h
      exact ⟨rfl, rfl⟩

/-- A screen that is not due is the one presented last. -/
def UpToDate (s : Session) : Prop :=
  s.machine.frameDue = false → s.windowSystem.presented.back? = some s.texture

lemma texture_eq (hdisplay : t.machine.state.display = s.machine.state.display)
    (hpadding : t.windowSystem.padding = s.windowSystem.padding) : t.texture = s.texture := by
  simp only [texture, WindowSystem.newTexture, WindowSystem.pitch, hdisplay, hpadding]

/-- **Every act that goes well leaves the window up to date.** -/
lemma UpToDate.of_goesOn (hs : s.UpToDate) {a : Act} (h : a.stage s = (.goesOn, t)) :
    t.UpToDate := by
  have hwithin := within_of_goesOn h
  intro hdue
  by_cases ha : a = .showFrame
  · obtain rfl := ha
    obtain ⟨hmachine, hpresented⟩ := showFrame_cases h
    rw [texture_eq (by rw [hmachine]) hwithin.padding, hpresented]
    rcases hbefore : s.machine.frameDue with _ | _
    · exact hs hbefore
    · exact Array.back?_push
  · obtain ⟨hframe, hdisplay⟩ := refreshed_of_goesOn ha h
    rw [hdue] at hframe
    obtain ⟨hbefore, hnew⟩ := Bool.or_eq_false_iff.mp hframe.symm
    rw [texture_eq (hdisplay hnew) hwithin.padding, hwithin.presented ha]
    exact hs hbefore

/-! ## How many textures are presented -/

/-- Something that took place in a session. -/
structure Moment where
  /-- The session in which it took place. -/
  session : Session
  /-- What took place. -/
  act : Act

/-- The screen is shown, if it is due. -/
def Moment.shows (m : Moment) : Bool := m.act = .showFrame

/-- There is a new screen. -/
def Moment.refreshes (m : Moment) : Bool := m.session.refreshes m.act

/-- What takes place when an agenda is followed. -/
def trail : List Act → Session → List Moment
  | [], _ => []
  | a :: acts, s =>
      ⟨s, a⟩ :: match a.stage s with
        | (.goesOn, t) => trail acts t
        | _ => []

/-- For each time at which the screen was shown if it was due: what took place before it, back to
the time before. -/
def showings (moments : List Moment) : List (List Moment) :=
  (moments.splitOnP Moment.shows).dropLast

lemma trail_cons {a : Act} (h : a.stage s = (.goesOn, t)) (acts : List Act) :
    trail (a :: acts) s = ⟨s, a⟩ :: trail acts t := by
  rw [trail, h]

/-- The textures that are presented on the way, if some moments have passed since the screen was
shown last. -/
lemma size_presented_add {acts : List Act} {recent : List Moment}
    (hdue : s.machine.frameDue = recent.any Moment.refreshes)
    (h : follow acts s = (.goesOn, t)) :
    t.windowSystem.presented.size = s.windowSystem.presented.size +
      ((((trail acts s).splitOnP Moment.shows).modifyHead (recent ++ ·)).dropLast).countP
        (·.any Moment.refreshes) := by
  induction acts generalizing s recent with
  | nil =>
      cases h
      simp [trail]
  | cons a acts ih =>
      obtain ⟨u, hu, hrest⟩ := follow_cons_eq_goesOn_iff.mp h
      rw [trail_cons hu, List.splitOnP_cons_eq_if_modifyHead]
      by_cases ha : a = .showFrame
      · -- A new stretch begins; the one before it counts if the screen was due.
        obtain rfl := ha
        obtain ⟨hmachine, hpresented⟩ := showFrame_cases hu
        have hsize : u.windowSystem.presented.size =
            s.windowSystem.presented.size + if recent.any Moment.refreshes then 1 else 0 := by
          rw [hpresented, hdue]
          split_ifs <;> simp
        have hnone : u.machine.frameDue = [].any Moment.refreshes := by rw [hmachine]; rfl
        have hshows : Moment.shows ⟨s, .showFrame⟩ = true := rfl
        have hnothing : (([] : List Moment) ++ ·) = id := rfl
        rw [ih hnone hrest, hsize, hnothing, List.modifyHead_id, id_eq, if_pos hshows,
          List.modifyHead_cons, List.dropLast_cons_of_ne_nil (List.splitOnP_ne_nil _ _),
          List.countP_cons, List.append_nil]
        omega
      · have hframe := (refreshed_of_goesOn ha hu).frameDue
        have hrecent : u.machine.frameDue = (recent ++ [Moment.mk s a]).any Moment.refreshes := by
          rw [hframe, hdue]
          simp [Moment.refreshes]
        have hshows : ¬ Moment.shows ⟨s, a⟩ = true := by simpa [Moment.shows] using ha
        rw [ih hrecent hrest, (within_of_goesOn hu).presented ha, if_neg hshows,
          List.modifyHead_modifyHead]
        congr 5
        funext moments
        simp

/-! ## The window in a run -/

/-- In a list of acts, events are asked for only after the screen was shown. -/
def Polite (acts : List Act) : Prop := acts.IsChain fun a b => b = .poll → a = .showFrame

lemma polite_of_notMem {acts : List Act} (h : .poll ∉ acts) (a : Act) : Polite (a :: acts) := by
  induction acts generalizing a with
  | nil => exact .singleton a
  | cons b acts ih =>
      obtain ⟨hb, hacts⟩ := not_or.mp (List.mem_cons.not.mp h)
      exact List.isChain_cons_cons.mpr ⟨fun h => absurd h.symm hb, ih hacts b⟩

lemma polite_append {acts later : List Act} (hacts : Polite acts) (hlater : Polite later)
    (hhead : ∀ b ∈ later.head?, b = .showFrame) : Polite (acts ++ later) :=
  List.isChain_append.mpr ⟨hacts, hlater, fun _ _ b hb h => nomatch (hhead b hb).symm.trans h⟩

lemma polite_pass (p : Pass) : Polite p.agenda := by
  have hrest : .poll ∉ p.events.map Act.handle ++ [.advance p.random, .concludeStep] := by simp
  exact List.isChain_cons_cons.mpr ⟨fun _ => rfl, polite_of_notMem hrest .poll⟩

lemma head?_passes (passes : List Pass) :
    ∀ b ∈ (passes.flatMap Pass.agenda).head?, b = .showFrame := by
  cases passes with
  | nil => exact fun b hb => nomatch hb
  | cons p passes => exact fun b hb => (Option.mem_some_iff.mp hb).symm

lemma polite_passes (passes : List Pass) : Polite (passes.flatMap Pass.agenda) := by
  induction passes with
  | nil => exact .nil
  | cons p passes ih => exact polite_append (polite_pass p) ih (head?_passes passes)

/-- **Before events are asked for, the screen is shown.** -/
lemma exists_showFrame_of_poll {options : Options} {script : List Pass} {past later : List Act}
    (h : agenda options script = past ++ .poll :: later) : ∃ acts, past = acts ++ [.showFrame] := by
  have hpolite : Polite (past ++ .poll :: later) := by
    have hstart : Polite options.agenda := polite_of_notMem (by simp) _
    rw [← h]
    exact polite_append hstart (polite_passes _) (head?_passes _)
  rcases List.eq_nil_or_concat' past with rfl | ⟨acts, a, rfl⟩
  · cases h
  · rw [List.append_assoc] at hpolite
    obtain ⟨-, ha, -⟩ := List.isChain_append_cons_cons.mp hpolite
    exact ⟨acts, by rw [ha rfl]⟩

variable {options : Options} {disk : Disk} {padding : Nat} {failing : Option (WindowCall × Nat)}
  {log : Log} {script : List Pass} {past later : List Act}

/-- A texture shows the screen of a machine that is sound. -/
lemma depicts_texture (h : s.machine.Sound) :
    Texture.Depicts s.texture s.windowSystem.pitch s.machine.state.display :=
  Texture.depicts_upload (Nat.le_add_right _ _) Array.size_replicate fun k =>
    eq_zero_or_one_of_le (h.valid.display_le k)

/-- The program that is taken in at the beginning brings the first screen. -/
lemma size_presented_eq {path : String} {acts : List Act} {first : Session}
    (h : follow (.loadProgram path :: acts) first = (.goesOn, s)) :
    s.windowSystem.presented.size = first.windowSystem.presented.size +
      (showings (trail (.loadProgram path :: acts) first)).countP (·.any Moment.refreshes) := by
  obtain ⟨u, hu, hrest⟩ := follow_cons_eq_goesOn_iff.mp h
  have hne : Act.loadProgram path ≠ .showFrame := nofun
  have hnew : Moment.refreshes ⟨first, .loadProgram path⟩ = true :=
    decide_eq_true (congrArg Prod.fst hu)
  have hdue : u.machine.frameDue =
      [Moment.mk first (.loadProgram path)].any Moment.refreshes := by
    rw [(refreshed_of_goesOn hne hu).frameDue, List.any_cons, hnew]
    exact Bool.or_eq_true_iff.mpr (.inr hnew)
  have hshows : ¬ Moment.shows ⟨first, .loadProgram path⟩ = true := by simp [Moment.shows]
  rw [size_presented_add hdue hrest, (within_of_goesOn hu).presented hne, showings, trail_cons hu,
    List.splitOnP_cons_eq_if_modifyHead, if_neg hshows]
  rfl

/-- **The window is never out of date,** however wide the rows of its textures are and whenever the
window system fails.  Whenever events are asked for in a run, the texture presented last shows the
screen as it is then, and the textures presented so far are as many as the passes before which, back
to the pass before, something brought a new screen. -/
theorem window_current (hagenda : agenda options script = past ++ .poll :: later)
    (hs : follow past (idle options disk (WindowSystem.idle padding failing) log) = (.goesOn, s)) :
    (∃ texture, s.windowSystem.presented.back? = some texture ∧
      Texture.Depicts texture (Texture.rowSize + padding) s.machine.state.display) ∧
    s.windowSystem.presented.size =
      (showings (trail past (idle options disk (WindowSystem.idle padding failing) log))).countP
        (·.any Moment.refreshes) := by
  obtain ⟨acts, rfl⟩ := exists_showFrame_of_poll hagenda
  constructor
  · obtain ⟨u, hu, hshow⟩ := follow_append_eq_goesOn_iff.mp hs
    have hdue : s.machine.frameDue = false := by
      obtain ⟨v, hv, hnil⟩ := follow_cons_eq_goesOn_iff.mp hshow
      cases hnil
      rw [(showFrame_cases hv).1]
    have hfirst : UpToDate (idle options disk (WindowSystem.idle padding failing) log) :=
      fun h : true = false => nomatch h
    have hcurrent : s.UpToDate :=
      follow_induction (fun _ _ _ _ huv hu => hu.of_goesOn huv) hfirst hs
    have hdepicts := depicts_texture (sound_follow Machine.sound_fresh hs)
    rw [WindowSystem.pitch, padding_follow hs] at hdepicts
    exact ⟨s.texture, hcurrent hdue, hdepicts⟩
  · -- The agenda begins with the program, so that the acts before the showing do.
    cases acts with
    | nil => cases hagenda
    | cons a acts =>
        obtain rfl : .loadProgram options.rom = a := (List.cons.inj hagenda).1
        rw [List.cons_append] at hs ⊢
        rw [size_presented_eq hs]
        exact Nat.zero_add _

/-! A program that draws, stepped through after it was started over: of the three passes the first
and the third present a texture. -/

/-- The disk with the drawing program on it. -/
def drawingDisk : Disk :=
  (Disk.bare ["home"]).put ["draw.ch8", "home"] (.file ⟨#[0xD0, 0x15, 0x12, 0x02]⟩)

/-- The drawing program, paused. -/
def drawingOptions : Options := { Options.standard "draw.ch8" with paused := true }

/-- A window whose textures have rows of 195 bytes, and which fails when it copies the third one. -/
def drawingWindow : WindowSystem := WindowSystem.idle 3 (some (.copy, 2))

/-- The passes before the one in which the window is closed. -/
def drawingPasses : List Pass := [⟨[.save], 0⟩, ⟨[.restart, .step], 0⟩]

/-- What is done until events are asked for the third time. -/
def drawingPast : List Act :=
  drawingOptions.agenda ++ drawingPasses.flatMap Pass.agenda ++ [.showFrame]

/-- The window is up to date in the third pass. -/
theorem window_current_drawing :
    let first := idle drawingOptions drawingDisk drawingWindow Log.silent
    let s := (follow drawingPast first).2
    agenda drawingOptions drawingPasses =
        drawingPast ++ .poll :: [.handle .quit, .advance 0, .concludeStep] ∧
      follow drawingPast first = (.goesOn, s) ∧
      (∃ texture, s.windowSystem.presented.back? = some texture ∧
        Texture.Depicts texture (Texture.rowSize + 3) s.machine.state.display) ∧
      s.windowSystem.presented.size =
        (showings (trail drawingPast first)).countP (·.any Moment.refreshes) ∧
      s.windowSystem.presented.size = 2 := by
  intro first s
  have hagenda : agenda drawingOptions drawingPasses =
      drawingPast ++ .poll :: [.handle .quit, .advance 0, .concludeStep] := by
    decide
  have hs : follow drawingPast first = (.goesOn, s) := by
    have hverdict : (follow drawingPast first).1 = .goesOn := by decide +kernel
    exact Prod.ext hverdict rfl
  obtain ⟨htexture, hsize⟩ := window_current hagenda hs
  exact ⟨hagenda, hs, htexture, hsize, by decide +kernel⟩

end Session

end ChipVm
