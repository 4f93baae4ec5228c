import CredentialCheck.Proofs.CommandLine.Report
import CredentialCheck.Proofs.Document.Bytes

/-!
# Files and their bytes

The command reads a file as text, with its line endings unified, and loads the document in the text.
What it reports is what loading the bytes of the file comes to: the line endings cannot make a
difference, and a file that is not UTF-8 is reported before anything is loaded.

* `Reported` relates the outcome of loading to the reason that is shown.
* `bytes_text_file_agree` puts the three ways to load a document side by side.
-/

namespace CredentialCheck.CommandLine

open Document Text

/-! ## Reasons -/

/-- What is shown of an outcome of loading: no reason if there is a document, the message if a rule
is broken, and some reason if the document cannot be read. -/
inductive Reported : Except LoadFailure Document → Option Reason → Prop
  | valid (d : Document) : Reported (.ok d) none
  | rejected (message : String) : Reported (.error (.rejected ⟨.string message⟩)) (some message)
  | unparsable (origin : Origin) (issues : List Issue) (reason : Reason) :
    Reported (.error (.unparsable origin issues)) (some reason)

section

variable (model : Model) {bs : List UInt8}

theorem reported_textReason? (text : String) :
    Reported (load model (.string text)) (textReason? model text) := by
  unfold textReason?
  cases hload : load model (.string text) with
  | ok d => exact .valid d
  | error failure =>
    unfold load at hload
    split at hload
    · cases hload
      exact .unparsable _ _ _
    · next d _ =>
      rw [d.ofVerdict_eq] at hload
      split at hload <;> cases hload
      exact .rejected _

/-- The text of a file, by its bytes. -/
theorem readText_of_readBytes {fs : FileSystem} {path : Spelling}
    (h : fs.readBytes path = .ok bs) :
    fs.readText path = match Utf8.decode bs with
      | .error fault => .error (.notUtf8 fault)
      | .ok t => .ok (String.ofList (unifyLineEndings t)) := by
  rw [FileSystem.readText, FileSystem.readExact, h]
  dsimp only
  cases Utf8.decode bs with
  | error fault => rfl
  | ok t => simp only [Except.map, String.toList_ofList]

/-- **What is reported on a file is what loading its bytes comes to.** -/
theorem reported_fileReason? {fs : FileSystem} {path : String}
    (hfile : fs.readBytes (.text path) = .ok bs) :
    Reported (load model (.bytes bs)) (fileReason? fs model path) := by
  rw [fileReason?, readText_of_readBytes hfile]
  cases hdecode : Utf8.decode bs with
  | error fault =>
    obtain ⟨fault', hload⟩ := load_bytes_of_not_utf8 model hdecode
    rw [hload]
    exact .unparsable _ _ _
  | ok t =>
    obtain rfl := Utf8.decode_eq_ok_iff.1 hdecode
    have htext := reported_textReason? model (String.ofList (unifyLineEndings t))
    dsimp only
    rcases load_unifyLineEndings model t with heq | ⟨fault, fault', hbytes, hunified⟩
    · rwa [heq] at htext
    · rw [hunified] at htext
      rw [hbytes]
      generalize textReason? model _ = reason? at htext
      cases htext
      exact .unparsable _ _ _

end

/-! ## Lines of a run -/

/-- The line for a valid document is not one for a document that is not valid. -/
theorem validLine_ne_invalidLine (path name reason : String) :
    path ++ ": valid " ++ name ≠ path ++ ": invalid (" ++ reason ++ ")" := by
  intro h
  have hlists := congrArg String.toList h
  simp only [String.toList_append, List.append_assoc, List.append_cancel_left_eq] at hlists
  exact absurd (congrArg (·[2]?) hlists) (by simp)

/-! ## Bytes, text and file -/

/-- What a run says about a document, by a line and by its status, when loading the bytes of the
file comes to the outcome. -/
structure Says (path name : String) (outcome : Except LoadFailure Document) (status : Nat)
    (line : String) : Prop where
  valid : line = path ++ ": valid " ++ name ↔ ∃ d, outcome = .ok d
  rejected : ∀ e, outcome = .error (.rejected e) →
    ∃ message, e.text = .ok message ∧ line = path ++ ": invalid (" ++ message ++ ")"
  failed : ∀ failure, outcome = .error failure →
    status = 1 ∧ ∃ reason, line = path ++ ": invalid (" ++ reason ++ ")"

/-- The line for a document says what loading its bytes comes to. -/
theorem says_documentLine (model : Model) {bs : List UInt8} {fs : FileSystem} {path : String}
    (hfile : fs.readBytes (.text path) = .ok bs) {status : Nat}
    (hstatus : (fileReason? fs model path).isSome = true → status = 1) :
    Says path model.name (load model (.bytes bs)) status (documentLine fs model path) := by
  have hreported := reported_fileReason? model hfile
  unfold documentLine
  generalize fileReason? fs model path = reason? at hreported hstatus ⊢
  generalize load model (.bytes bs) = outcome at hreported ⊢
  cases hreported with
  | valid d =>
    refine ⟨⟨fun _ => ⟨d, rfl⟩, fun _ => rfl⟩, ?_, ?_⟩
    · rintro e ⟨⟩
    · rintro failure ⟨⟩
  | rejected message =>
    refine ⟨⟨fun h => absurd h.symm (validLine_ne_invalidLine _ _ _), ?_⟩, ?_, ?_⟩
    · rintro ⟨d, ⟨⟩⟩
    · rintro e ⟨⟩
      exact ⟨message, rfl, rfl⟩
    · exact fun _ _ => ⟨hstatus rfl, message, rfl⟩
  | unparsable origin issues reason =>
    refine ⟨⟨fun h => absurd h.symm (validLine_ne_invalidLine _ _ _), ?_⟩, ?_, ?_⟩
    · rintro ⟨d, ⟨⟩⟩
    · rintro e ⟨⟩
    · exact fun _ _ => ⟨hstatus rfl, reason, rfl⟩

section

variable {env : List (String × String)} {argv : List String} {a : Arguments}
  {files opened : FileSystem} {place? : Option Path} {i : Nat} {stamp : String}

/-- A document has its line in a run if it comes first, before anything has been logged, or if the
documents are apart from the log. -/
theorem run_documentLine (hparse : parse (.ofEnvironment env) argv = .ok a)
    (hlog : openLog? files a.logFile = some (place?, opened))
    (hnull : ∀ path, .string path ∈ a.schemas ++ a.credentialDefinitions → '\x00' ∉ path.toList)
    (hapart : i = 0 ∨ a.DocumentsApart opened place? stamp) {model : Model} {path : String}
    (hitem : a.items[i]? = some (.document model (.string path))) :
    ∃ status w, (run (.ofEnvironment env) argv).run (.fresh files stamp) = (.status status, w) ∧
      (w.console.prints .output)[i]? = some (documentLine opened model path ++ "\n") ∧
      ((fileReason? opened model path).isSome = true → status = 1) := by
  have hitems := nullFree_of_paths hparse hnull
  rcases hapart with rfl | hapart
  · obtain ⟨rest, hrest⟩ : ∃ rest, a.items = .document model (.string path) :: rest := by
      rw [← List.head?_eq_getElem?] at hitem
      exact List.head?_eq_some_iff.1 hitem
    obtain ⟨reports, w, -, hrun, houtput⟩ := run_first hparse hlog hitems hrest stamp
    refine ⟨_, w, hrun, by rw [houtput]; rfl, fun hfaulty => if_neg ?_⟩
    have hinvalid : (Item.report opened a.kind (.document model (.string path))).valid = false :=
      congrArg not hfaulty
    rw [List.countP_cons_of_pos (by rw [hinvalid]; rfl)]
    exact Nat.succ_ne_zero _
  · obtain ⟨w, hrun, houtput, -⟩ := run_lines hparse hlog hitems hapart
    refine ⟨_, w, hrun, ?_, fun hfaulty => if_neg ?_⟩
    · rw [houtput, List.getElem?_map, List.getElem?_map, hitem]
      rfl
    · exact Nat.ne_of_gt (List.countP_pos_iff.2 ⟨_, List.mem_of_getElem? hitem, hfaulty⟩)

end

/-- **Bytes, text and file agree.** Bytes that are UTF-8 are loaded as their text is, with the same
place of a fault in the JSON; others are no JSON. A run of the command over a file with these bytes
calls it valid just if loading the bytes succeeds, shows the message of the rule that is broken if
one is, and in any case calls it invalid, with the status 1, if loading the bytes fails. The file is
the first thing that the run checks, or else the documents have to be apart from the log. -/
theorem bytes_text_file_agree (model : Model) (bs : List UInt8) :
    (∀ t, Utf8.decode bs = .ok t →
      SameButInput (.bytes bs) (.string (String.ofList t)) (load model (.bytes bs))
        (load model (.string (String.ofList t)))) ∧
    (∀ fault, Utf8.decode bs = .error fault →
      ∃ fault', load model (.bytes bs) = .error (notJson (.bytes bs) fault')) ∧
    ∀ {env : List (String × String)} {argv : List String} {a : Arguments}
      {files opened : FileSystem} {place? : Option Path} {i : Nat} {path stamp : String},
      parse (.ofEnvironment env) argv = .ok a →
      openLog? files a.logFile = some (place?, opened) →
      (∀ path, .string path ∈ a.schemas ++ a.credentialDefinitions → '\x00' ∉ path.toList) →
      (i = 0 ∨ a.DocumentsApart opened place? stamp) →
      a.items[i]? = some (.document model (.string path)) →
      opened.readBytes (.text path) = .ok bs →
      ∃ status w line,
        (run (.ofEnvironment env) argv).run (.fresh files stamp) = (.status status, w) ∧
        (w.console.prints .output)[i]? = some (line ++ "\n") ∧
        Says path model.name (load model (.bytes bs)) status line := by
  refine ⟨fun t ht => load_bytes_text model ht, fun fault hfault =>
    load_bytes_of_not_utf8 model hfault, ?_⟩
  intro env argv a files opened place? i path stamp hparse hlog hnull hapart hitem hfile
  obtain ⟨status, w, hrun, hprinted, hstatus⟩ := run_documentLine hparse hlog hnull hapart hitem
  exact ⟨status, w, documentLine opened model path, hrun, hprinted,
    says_documentLine model hfile hstatus⟩

/-- The message about the rule that is broken, if that is how loading ends. -/
def rejection? : Except LoadFailure Document → Option String
  | .error (.rejected ⟨.string message⟩) => some message
  | _ => none

theorem eq_of_rejection? {outcome : Except LoadFailure Document} {message : String}
    (h : rejection? outcome = some message) : outcome = .error (.rejected ⟨.string message⟩) := by
  unfold rejection? at h
  split at h <;> cases h
  rfl

theorem bytes_text_file_agree_returns : ∃ w,
    (run (.ofEnvironment []) ["--schema", "/s"]).run (.fresh returnsTree "") = (.status 1, w) ∧
      (w.console.prints .output)[0]? = some "/s: invalid (Invalid issuer id: x)\n" := by
  have hload : load .schema (.bytes returnsFile) =
      .error (.rejected ⟨.string "Invalid issuer id: x"⟩) :=
    eq_of_rejection? (by decide +kernel)
  have hparse : parse (.ofEnvironment []) ["--schema", "/s"] =
      .ok ⟨[], .string "any", [.string "/s"], [], .string "WARNING", .null⟩ := rfl
  have hnull (path : String) (h : .string path ∈ [Value.string "/s"] ++ []) :
      '\x00' ∉ path.toList := by
    cases List.mem_singleton.1 h
    decide
  have hfile : returnsTree.readBytes (.text "/s") = .ok returnsFile := rfl
  obtain ⟨status, w, line, hrun, houtput, hsays⟩ :=
    (bytes_text_file_agree .schema returnsFile).2.2 hparse rfl hnull (.inl rfl) rfl hfile
  obtain ⟨rfl, -⟩ := hsays.failed _ hload
  obtain ⟨message, hmessage, rfl⟩ := hsays.rejected _ hload
  cases hmessage
  exact ⟨w, hrun, houtput⟩

end CredentialCheck.CommandLine
