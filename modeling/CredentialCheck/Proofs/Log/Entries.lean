import CredentialCheck.Proofs.FileSystem.Rolling
import CredentialCheck.Proofs.Log.Handlers
import Mathlib.Logic.Relation

/-!
# Entries in a log file

A log file is in use from a call of `setup` that succeeds to the next call of this library.
Whatever happens to the log, what comes to the content of the file is one entry for each record that
is logged meanwhile and goes anywhere, in order, and nothing else. Neither a handler that is left on
the root too long nor one that is there twice would go with this.

No file must get full for that: neither this one, nor one that has it among its backups.

* `Tenure` says which file is in use, and from which level on, without looking at the root.
* `added?` is what an event adds to a file, `tenures` lists the events with the tenure of each, and
  `entered` is what they add.
* `Path.Affects` says which files must not get full, `node?_write` what a line changes in theirs.
* `InForce` relates root and tenure; an event keeps it and adds its entry (`InForce.after`).
* `content_follow` is the statement about whole runs.
-/

namespace CredentialCheck

namespace Log

open FileSystem Text

/-! ## Tenure -/

/-- Which log file is in use, and the level from which on records are logged. -/
structure Tenure where
  place? : Option Path
  level : Level

/-- Nothing has been set up yet. -/
def Tenure.initial : Tenure := ⟨none, .number 30⟩

/-- The place of the log file, if there is to be one and it can be opened. -/
def logPlace? (fs : FileSystem) (logFile : Value) : Option Path :=
  (logSink? fs logFile).bind Sink.place?

/-- The tenure after an event that finds the log as `s`. Only a call that succeeds puts a file to
use, each call ends the use of the one before, and the level stays until a call succeeds. -/
def Tenure.after (t : Tenure) (s : Session) : Event → Tenure
  | .setup level logFile trouble =>
    match (s.root.setup s.files trouble level logFile).1, Level.ofValue level with
    | .ok (), .ok level => ⟨logPlace? s.files logFile, level⟩
    | _, _ => { t with place? := none }
  | .shutdown _ => { t with place? := none }
  | _ => t

/-- What an event adds to the file at a place, if anything. -/
def added? (place : Path) (stamp : String) : Tenure × Event → Option (List UInt8)
  | (t, .record logger level template values) =>
    if t.place? = some place ∧ 0 < level.value ∧ t.level.value ≤ level.value then
      (message template.display values).map fun text =>
        Utf8.encode (Record.line stamp ⟨loggerName logger, level, text⟩).toList
    else none
  | _ => none

/-- The events, each with the tenure that it finds. -/
def tenures (s : Session) (a : Account) (t : Tenure) : List Event → List (Tenure × Event)
  | [] => []
  | event :: events =>
    (t, event) :: tenures (s.after a.made event) (a.after s event) (t.after s event) events

/-- What events add to the file at a place. -/
def entered (s : Session) (a : Account) (t : Tenure) (events : List Event) (place : Path) :
    List UInt8 :=
  ((tenures s a t events).filterMap (added? place s.stamp)).flatten

/-- The event leaves the files at certain places to this library. -/
def Event.Spares (near : Path → Prop) : Event → Prop
  | .attach sink => ∀ place, sink.place? = some place → ¬ near place
  | .files _ => False
  | _ => True

/-! ## Writing to handlers -/

variable {place : Path} {near : Path → Prop}

/-- Rolling over the files at other places does not change what stands at these. -/
def Closed (near : Path → Prop) : Prop :=
  ∀ place other : Path, near place → other.InBackup place → near other

/-- Whether a handler writes to the place. -/
def Handler.isAt (place : Path) (h : Handler) : Bool := h.sink.place? = some place

/-- What a line adds to the file at a place: itself, once for each handler there. -/
def lineAt (line : String) (handlers : List Handler) (place : Path) : List UInt8 :=
  (List.replicate (handlers.countP (Handler.isAt place)) (Utf8.encode line.toList)).flatten

theorem lineAt_cons_of_pos {line : String} {h : Handler} (hat : h.isAt place = true)
    (hs : List Handler) :
    lineAt line (h :: hs) place = Utf8.encode line.toList ++ lineAt line hs place := by
  rw [lineAt, List.countP_cons_of_pos hat, List.replicate_succ, List.flatten_cons]
  rfl

theorem lineAt_cons_of_neg {line : String} {h : Handler} (hat : h.isAt place = false)
    (hs : List Handler) : lineAt line (h :: hs) place = lineAt line hs place := by
  rw [lineAt, List.countP_cons_of_neg (by simp [hat])]
  rfl

/-- None of the handlers fills a file at one of the places with the line. -/
def FillsNone (near : Path → Prop) (fs : FileSystem) (line : String) (handlers : List Handler) :
    Prop :=
  ∀ h ∈ handlers, ∀ place whenFull content, h.sink = .file place whenFull → whenFull ≠ .grows →
    near place → fs.content? place = some content →
    (content ++ lineAt line handlers place).length < maxBytes

section

variable {fs : FileSystem} {line : String} {handlers : List Handler}

/-- The file at one place is extended, and the other places that count stay as they are. -/
theorem FillsNone.tail {h : Handler} (hfills : FillsNone near fs line (h :: handlers))
    {fs' : FileSystem} (hnode : ∀ q, near q → fs'.node? q = (fs.node? q).map
      (extended (if h.isAt q = true then Utf8.encode line.toList else []))) :
    FillsNone near fs' line handlers := by
  intro x hx q whenFull content' hsink hlimited hq hcontent'
  rw [content?_of_extended (hnode q hq)] at hcontent'
  obtain ⟨content, hcontent, rfl⟩ := Option.map_eq_some_iff.1 hcontent'
  have hbelow := hfills x (List.mem_cons_of_mem h hx) q whenFull content hsink hlimited hq hcontent
  cases hat : h.isAt q with
  | true =>
    rw [lineAt_cons_of_pos hat, ← List.append_assoc] at hbelow
    exact hbelow
  | false =>
    rw [lineAt_cons_of_neg hat] at hbelow
    rw [if_neg Bool.false_ne_true, List.append_nil]
    exact hbelow

/-- The handler at the head of the list writes the line at the end of its file. -/
theorem FillsNone.node?_head {h : Handler} (hfills : FillsNone near fs line (h :: handlers))
    (hnear : Closed near) {q : Path} (hq : near q) :
    (Root.write fs line [h]).2.node? q = (fs.node? q).map
      (extended (if h.isAt q = true then Utf8.encode line.toList else [])) := by
  cases hsink : h.sink with
  | stream | nowhere =>
    simp [Root.write, Handler.isAt, Sink.place?, hsink, extended_nil]
  | file other whenFull =>
    have hat : (h.isAt q = true) = (q = other) := by
      simp [Handler.isAt, Sink.place?, hsink, eq_comm]
    simp only [Root.write, hsink, hat]
    by_cases hother : near other
    · rw [writeLine_eq_append fun hlimited content hcontent => ?_, node?_append]
      · split
        · rfl
        · rw [extended_nil, Option.map_id, id]
      · have hbelow := hfills h List.mem_cons_self other whenFull content hsink hlimited hother
          hcontent
        have hself : h.isAt other = true := by simp [Handler.isAt, Sink.place?, hsink]
        rw [lineAt_cons_of_pos hself, ← List.append_assoc, List.length_append] at hbelow
        exact wouldFill_eq_false (Nat.lt_of_le_of_lt (Nat.le_add_right _ _) hbelow)
    · have hne : q ≠ other := fun heq => hother (heq ▸ hq)
      rw [if_neg hne, extended_nil, Option.map_id, id]
      exact node?_writeLine_of_ne hne fun _ hbackup => hother (hnear q other hq hbackup)

/-- **A line comes to the content once for each handler at the place**, if neither the file there
nor one that has it among its backups gets full. -/
theorem node?_write (hnear : Closed near) (hfills : FillsNone near fs line handlers) {q : Path}
    (hq : near q) :
    (Root.write fs line handlers).2.node? q =
      (fs.node? q).map (extended (lineAt line handlers q)) := by
  induction handlers generalizing fs with
  | nil =>
    change fs.node? q = (fs.node? q).map (extended [])
    rw [extended_nil, Option.map_id, id]
  | cons h hs ih =>
    have hhead (q : Path) (hq : near q) := hfills.node?_head hnear hq
    have hrest : (Root.write fs line (h :: hs)).2 =
        (Root.write (Root.write fs line [h]).2 line hs).2 := rfl
    rw [hrest, ih (hfills.tail hhead), hhead q hq, Option.map_map, extended_extended]
    cases hat : h.isAt q with
    | true => rw [lineAt_cons_of_pos hat, if_pos rfl]
    | false => rw [lineAt_cons_of_neg hat, if_neg Bool.false_ne_true, List.nil_append]

end

/-! ## Root and tenure -/

/-- The root is as the tenure says: its level is in force, and just one handler is at the place
while the file there is in use, and else none. -/
structure InForce (place : Path) (s : Session) (a : Account) (t : Tenure) : Prop where
  kept : Kept s a
  level : s.root.level = t.level
  own : a.own.countP (Handler.isAt place) = if t.place? = some place then 1 else 0
  made : ∀ h ∈ a.made, h.isAt place = false
  content : t.place? = some place → s.files.node? place ≠ some .void →
    (s.files.content? place).isSome

variable {s : Session} {a : Account} {t : Tenure}

/-- The handler at the place is this library's. -/
theorem InForce.countP_handlers (h : InForce place s a t) :
    s.root.handlers.countP (Handler.isAt place) = if t.place? = some place then 1 else 0 := by
  have hhost : a.host.countP (Handler.isAt place) = 0 :=
    List.countP_eq_zero.2 fun x hx => by simp [h.made x (h.kept.made x hx)]
  rw [List.countP_eq_countP_filter_add s.root.handlers (Handler.isAt place) (· ∈ a.host),
    h.kept.host_eq, hhost, Nat.zero_add, ← h.own, ← h.kept.own_eq]
  simp only [decide_not]

theorem countP_handlersFor (next : Nat) (sink? : Option Sink) :
    (handlersFor next sink?).countP (Handler.isAt place) =
      if sink?.bind Sink.place? = some place then 1 else 0 := by
  cases sink? with
  | none => rfl
  | some sink => cases sink <;> simp [handlersFor, Handler.isAt, Sink.place?, List.countP_cons]

/-! ## Events -/

/-- An event that changes neither the level nor the files nor this library's handlers, and leaves
the file at the place to this library. -/
theorem InForce.of_eq (h : InForce place s a t) {s' : Session} {a' : Account}
    (hkept : Kept s' a') (hlevel : s'.root.level = s.root.level) (hfiles : s'.files = s.files)
    (hown : a'.own = a.own) (hmade : ∀ x ∈ a'.made, x.isAt place = false) :
    InForce place s' a' t ∧ Adds place [] s.files s'.files := by
  refine ⟨⟨hkept, hlevel.trans h.level, hown ▸ h.own, hmade, ?_⟩, ?_⟩
  · rw [hfiles]
    exact h.content
  · rw [hfiles]
    exact .refl place s.files

/-- The files after setting up: a log file may have been opened. -/
theorem setup_files (r : Root) (fs : FileSystem) (trouble : Trouble) (level logFile : Value) :
    logPlace? fs logFile = none ∧ (r.setup fs trouble level logFile).2.2 = fs ∨
      ∃ path place, logPlace? fs logFile = some place ∧
        fs.openForAppend path = .ok (place, (r.setup fs trouble level logFile).2.2) := by
  have hfiles : (r.setup fs trouble level logFile).2.2 =
      ((r.shutdown trouble).1.installAll fs logFile).2.2 := by
    unfold Root.setup
    rcases (r.shutdown trouble).1.installAll fs logFile with ⟨⟨⟩ | ⟨⟩, root, files⟩
    · rfl
    · cases Level.ofValue level <;> rfl
  rw [hfiles]
  unfold Root.installAll logPlace? logSink?
  cases hpath : Root.logPath? logFile with
  | error f => exact .inl ⟨rfl, rfl⟩
  | ok path? =>
    cases path? with
    | none => exact .inl ⟨rfl, rfl⟩
    | some path =>
      cases hopen : fs.openForAppend path with
      | error f => exact .inl ⟨by simp only [hopen]; rfl, by simp only [hopen]⟩
      | ok opened =>
        refine .inr ⟨path, opened.1, ?_, ?_⟩
        · simp only [hopen]
          rfl
        · simp only [hopen]

theorem InForce.setup (h : InForce place s a t) (level logFile : Value) (trouble : Trouble) :
    InForce place (s.after a.made (.setup level logFile trouble))
        (a.after s (.setup level logFile trouble)) (t.after s (.setup level logFile trouble)) ∧
      Adds place [] s.files (s.after a.made (.setup level logFile trouble)).files := by
  have hkept := h.kept.after (.setup level logFile trouble)
  have hopened := setup_files s.root s.files trouble level logFile
  obtain ⟨result, root, files, hsetup, -, -, hcases⟩ :=
    setup_cases s.root s.files trouble level logFile
  have hadds : Adds place [] s.files files := by
    rw [hsetup] at hopened
    rcases hopened with ⟨-, rfl⟩ | ⟨path, other, -, hopen⟩
    · exact .refl place _
    · exact adds_openForAppend hopen place
  simp only [Session.after, Account.after, Tenure.after, hsetup] at hkept ⊢
  refine ⟨?_, hadds⟩
  rcases hcases with ⟨⟨f, rfl⟩, -, hlevel⟩ | ⟨rfl, -, -, -, hlevel⟩
  · exact ⟨hkept, hlevel.trans h.level, rfl, h.made,
      fun hplace => absurd hplace.symm (Option.some_ne_none place)⟩
  · simp only [hlevel]
    refine ⟨hkept, rfl, countP_handlersFor _ _, h.made, fun hplace hdevice => ?_⟩
    rw [hsetup] at hopened
    rcases hopened with ⟨hnone, -⟩ | ⟨path, other, hother, hopen⟩
    · cases hnone.symm.trans hplace
    · cases hother.symm.trans hplace
      exact isSome_content?_of_openForAppend hopen (mt hadds.void.2 hdevice)

theorem InForce.shutdown (h : InForce place s a t) (trouble : Trouble) :
    InForce place (s.after a.made (.shutdown trouble)) (a.after s (.shutdown trouble))
        (t.after s (.shutdown trouble)) ∧
      Adds place [] s.files (s.after a.made (.shutdown trouble)).files := by
  refine ⟨⟨h.kept.after (.shutdown trouble), ?_, rfl, h.made,
    fun hplace => absurd hplace.symm (Option.some_ne_none place)⟩, .refl place s.files⟩
  simp only [Session.after, shutdown_fst]
  exact h.level

/-- What is admitted goes to all handlers. -/
theorem emit_snd {r : Root} (record : Record) (h : r.admits record.level = true) (fs : FileSystem)
    (stamp : String) :
    (r.emit fs stamp record).2 = (Root.write fs (record.line stamp) r.handlers).2 := by
  rw [Root.emit, if_pos h]
  split
  · next hempty =>
    rw [List.isEmpty_iff.1 hempty]
    rfl
  · rfl

/-! ## Records -/

/-- **A record adds its entry to the file in use**, if none of the files that count gets full. -/
theorem adds_record (hnear : Closed near) (h : ∀ q, near q → InForce q s a t) (logger : String)
    (level : Level) (template : Value) (values : List Value)
    (hbelow : ∀ q, near q → ((s.files.content? q).getD [] ++
      (added? q s.stamp (t, .record logger level template values)).getD []).length < maxBytes)
    (hplace : near place) :
    Adds place ((added? place s.stamp (t, .record logger level template values)).getD []) s.files
      (s.record logger level template values).2.files := by
  have hadmits : s.root.admits level = true ↔ 0 < level.value ∧ t.level.value ≤ level.value := by
    rw [Root.admits, (h place hplace).level, Bool.and_eq_true, decide_eq_true_iff,
      decide_eq_true_iff]
  unfold Session.record
  split
  · next hlevel =>
    have hentry (q : Path) : t.place? = some q ∧ 0 < level.value ∧ t.level.value ≤ level.value ↔
        t.place? = some q := and_iff_left (hadmits.1 hlevel)
    simp only [added?, hentry] at hbelow ⊢
    cases hmessage : message template.display values with
    | none =>
      rw [Option.map_none, ite_self]
      exact .refl place s.files
    | some text =>
      simp only [hmessage, Option.map_some] at hbelow ⊢
      -- for each of the places the entry is what the handlers there write
      have hline (q : Path) (hq : near q) :
          lineAt (Record.line s.stamp ⟨loggerName logger, level, text⟩) s.root.handlers q =
            (if t.place? = some q then
              some (Utf8.encode (Record.line s.stamp ⟨loggerName logger, level, text⟩).toList)
            else none).getD [] := by
        rw [lineAt, (h q hq).countP_handlers]
        split
        · exact List.flatten_singleton
        · rfl
      have hfills : FillsNone near s.files
          (Record.line s.stamp ⟨loggerName logger, level, text⟩) s.root.handlers := by
        intro x hx q whenFull content hsink hlimited hq hcontent
        have hsmall := hbelow q hq
        rw [← hline q hq, hcontent] at hsmall
        exact hsmall
      rw [← hline place hplace, emit_snd ⟨loggerName logger, level, text⟩ hlevel]
      refine adds_of_extended (node?_write hnear hfills hplace) ?_
      rw [hline place hplace]
      by_cases huse : t.place? = some place
      · by_cases hvoid : s.files.node? place = some .void
        · exact .inl hvoid
        · exact .inr (.inr ((h place hplace).content huse hvoid))
      · exact .inr (.inl (by rw [if_neg huse]; rfl))
  · next hlevel =>
    have hentry : ¬ (t.place? = some place ∧ 0 < level.value ∧ t.level.value ≤ level.value) :=
      fun hall => hlevel (hadmits.2 hall.2)
    rw [added?, if_neg hentry]
    exact .refl place s.files

/-- **An event keeps root and tenure in step, and adds its entry.** -/
theorem InForce.after (hnear : Closed near) (h : ∀ q, near q → InForce q s a t) {event : Event}
    (hspares : event.Spares near)
    (hbelow : ∀ q, near q → ((s.files.content? q).getD [] ++
      (added? q s.stamp (t, event)).getD []).length < maxBytes) (hplace : near place) :
    InForce place (s.after a.made event) (a.after s event) (t.after s event) ∧
      Adds place ((added? place s.stamp (t, event)).getD []) s.files
        (s.after a.made event).files := by
  have hforce := h place hplace
  have hkept := hforce.kept.after event
  cases event with
  | setup level logFile trouble => exact hforce.setup level logFile trouble
  | shutdown trouble => exact hforce.shutdown trouble
  | attach sink =>
    refine hforce.of_eq hkept rfl rfl rfl fun x hx => ?_
    rcases List.mem_append.1 hx with hx | hx
    · exact hforce.made x hx
    · rw [List.mem_singleton.1 hx]
      exact decide_eq_false fun hsink => hspares place hsink hplace
  | reattach index =>
    simp only [Session.after, Account.after] at hkept ⊢
    cases hget : a.made[index]? with
    | none => exact hforce.of_eq hforce.kept rfl rfl rfl hforce.made
    | some x =>
      rw [hget] at hkept
      dsimp only at hkept ⊢
      refine hforce.of_eq hkept ?_ rfl ?_ ?_
      · dsimp only [Root.reattach]
        split <;> rfl
      · split <;> rfl
      · split <;> exact hforce.made
  | detach index =>
    simp only [Session.after, Account.after] at hkept ⊢
    cases hget : a.made[index]? with
    | none => exact hforce.of_eq hforce.kept rfl rfl rfl hforce.made
    | some x =>
      rw [hget] at hkept
      exact hforce.of_eq hkept rfl rfl rfl hforce.made
  | record logger level template values =>
    have hadds := adds_record hnear h logger level template values hbelow hplace
    refine ⟨⟨hkept, ?_, hforce.own, hforce.made, fun huse hdevice => ?_⟩, hadds⟩
    · rw [Session.after, record_root]
      exact hforce.level
    · exact hadds.isSome (hforce.content huse (mt hadds.void.2 hdevice))
  | files files => exact absurd hspares id

/-! ## Runs -/

theorem stamp_after (s : Session) (made : List Handler) (event : Event) :
    (s.after made event).stamp = s.stamp := by
  cases event with
  | record logger level template values =>
    dsimp only [Session.after, Session.record]
    split
    · split <;> rfl
    · rfl
  | reattach index | detach index =>
    dsimp only [Session.after]
    split <;> rfl
  | _ => rfl

theorem entered_cons (s : Session) (a : Account) (t : Tenure) (event : Event)
    (events : List Event) (place : Path) :
    entered s a t (event :: events) place = (added? place s.stamp (t, event)).getD [] ++
      entered (s.after a.made event) (a.after s event) (t.after s event) events place := by
  rw [entered, entered, tenures, List.filterMap_cons, stamp_after]
  cases added? place s.stamp (t, event) <;> rfl

/-- What has come to a content is not more than what has been added. -/
theorem length_le_of_adds {bs : List UInt8} {fs fs' : FileSystem} (h : Adds place bs fs fs') :
    ((fs'.content? place).getD []).length ≤ ((fs.content? place).getD [] ++ bs).length := by
  by_cases hvoid : fs.node? place = some .void
  · rw [content?, h.void.2 hvoid]
    exact Nat.zero_le _
  · rw [h.content hvoid]

theorem InForce.follow (hnear : Closed near) (h : ∀ q, near q → InForce q s a t)
    {events : List Event} (hspares : ∀ event ∈ events, event.Spares near)
    (hbelow : ∀ q, near q →
      ((s.files.content? q).getD [] ++ entered s a t events q).length < maxBytes)
    (hplace : near place) :
    Adds place (entered s a t events place) s.files (follow s a events).1.files := by
  induction events generalizing s a t with
  | nil => exact .refl place s.files
  | cons event events ih =>
    rw [List.forall_mem_cons] at hspares
    simp only [entered_cons, ← List.append_assoc] at hbelow
    have hstep {q : Path} (hq : near q) := InForce.after hnear h hspares.1 (fun q hq =>
      Nat.lt_of_le_of_lt (List.prefix_append _ _).length_le (hbelow q hq)) hq
    have hrest := ih (fun q hq => (hstep hq).1) hspares.2 fun q hq => by
      have hlength := length_le_of_adds (hstep hq).2
      have hall := hbelow q hq
      rw [List.length_append] at hall ⊢
      omega
    rw [entered_cons]
    exact (hstep hplace).2.trans hrest

/-- A record whose line fills the log file is the first one in the file that takes its place. -/
theorem emit_full {r : Root} {n m : Nat}
    (hhandlers : r.handlers = [⟨n, .stream⟩, ⟨m, .file place .rollsOver⟩]) {record : Record}
    (hadmits : r.admits record.level = true) {fs rolled : FileSystem} {stamp : String}
    {content : List UInt8} (hcontent : fs.content? place = some content)
    (hfull : wouldFill content (record.line stamp) = true)
    (hrolled : fs.rollOver place content = some rolled) :
    (r.emit fs stamp record).2 = rolled.append place (Utf8.encode (record.line stamp).toList) := by
  rw [emit_snd record hadmits, hhandlers]
  simp only [Root.write, writeLine, hcontent, hfull, hrolled, if_true]

end Log

end CredentialCheck
