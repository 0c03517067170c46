import TurtleGraphics.CommandLine.Session
import TurtleGraphics.Proofs.CommandLine.OneLine

/-!
# All or nothing

A run from the command line does what the interpreter does, and either as a whole or not at all. It
has four stages: the script is fetched, it is read, the program is run, and the picture is stored.
`Options.Fails` says that one of the stages that a run comes to fails. What was printed or written
before a failure would stay so, but every stage that can fail comes before the one that prints or
writes (`Options.sessionBy_apply`). So nothing is printed and every file is as before, whichever
stage fails; otherwise the picture is printed, or one file has changed and holds the picture. A run
that only checks the script comes to the first two stages alone.
-/

namespace TurtleGraphics

open Text

theorem interpret_eq_ok_iff {allocator : Allocator} {script picture : String} :
    interpret allocator script = .ok picture ↔
      ∃ program grid, Program.parse script .standard = .ok program ∧
        program.run allocator = .ok grid ∧ grid.render = picture := by
  unfold interpret
  cases Program.parse script .standard with
  | error e => exact ⟨nofun, nofun⟩
  | ok program =>
    cases hrun : program.run allocator with
    | error e => simp [Except.mapError, bind, Except.bind, hrun]
    | ok grid => simp [Except.mapError, bind, Except.bind, pure, Except.pure, hrun]

namespace CommandLine

/-! ## Files -/

theorem decodeText_eq_ok_iff {content : ByteArray} {text : String} :
    decodeText content = .ok text ↔ content = text.toUTF8 := by
  unfold decodeText String.fromUTF8?
  by_cases hvalid : content.IsValidUTF8
  · rw [dif_pos hvalid, Except.ok.injEq]
    constructor
    · rintro rfl
      rfl
    · rintro rfl
      rfl
  · rw [dif_neg hvalid]
    refine ⟨nofun, ?_⟩
    rintro rfl
    exact absurd text.isValidUTF8 hvalid

namespace FileTree

variable {tree tree' : FileTree} {path text : String} {content : ByteArray} {place : Location}

theorem readText_eq_ok_iff :
    tree.readText path = .ok text ↔ tree.readFile path = .ok text.toUTF8 := by
  unfold readText
  cases tree.readFile path with
  | error e => exact ⟨nofun, nofun⟩
  | ok content => rw [decodeText_eq_ok_iff, Except.ok.injEq]

/-- A file that is put where no directory is stands in nobody's way. -/
theorem descend_put (hplace : tree.node place ≠ some .directory) {start target : Location}
    {names : List String} (h : tree.descend start names = .ok target) :
    (tree.put place (.file content)).descend start names = .ok target := by
  fun_induction tree.descend start names with
  | case1 start => exact h
  | case2 start names ih => exact ih h
  | case3 start names ih => exact ih h
  | case4 start name names _ _ hnode => cases h
  | case5 start name names _ _ _ hnode => cases h
  | case6 start name names hdot hdots hnode ih =>
    have hne : name :: start ≠ place := by
      rintro rfl
      exact hplace hnode
    rw [descend]
    · simp only [put, if_neg hne, hnode]
      exact ih h
    · exact hdot
    · exact hdots

theorem locate?_put (hplace : tree.node place ≠ some .directory) {p : Path} {target : Location}
    (h : tree.locate? p = .ok (some target)) :
    (tree.put place (.file content)).locate? p = .ok (some target) := by
  unfold locate? at h ⊢
  cases hparent : tree.parent p with
  | error e =>
    rw [hparent] at h
    cases h
  | ok directory =>
    have hkept : (tree.put place (.file content)).parent p = .ok directory :=
      descend_put hplace hparent
    rw [hparent] at h
    rw [hkept]
    exact h

/-- A path under which a file can be, with the place it leads to. -/
structure Leads (tree : FileTree) (path : String) (place : Location) : Prop where
  located : tree.locate? (.ofString path) = .ok (some place)
  noSlash : (Path.ofString path).trailingSlash = false
  noDirectory : tree.node place ≠ some .directory

theorem eq_of_permit_eq_ok {α : Type} {refusal : Option String} {result result' : α}
    (h : permit refusal result = .ok result') : result' = result := by
  cases refusal with
  | some reason => cases h
  | none => exact (Except.ok.inj h).symm

/-- Writing either is refused or puts the whole content in one place. -/
theorem put_of_writeFile (h : tree.writeFile path content = .ok tree') :
    ∃ place, tree.Leads path place ∧ tree' = tree.put place (.file content) := by
  unfold writeFile at h
  simp only at h
  split at h
  · cases h
  · cases h
  · next place hlocated =>
    split at h
    · cases h
    · next hslash =>
      have hslash : (Path.ofString path).trailingSlash = false := by simpa using hslash
      split at h
      · cases h
      · next hnode => exact ⟨place, ⟨hlocated, hslash, by simp [hnode]⟩, eq_of_permit_eq_ok h⟩
      · next hnode => exact ⟨place, ⟨hlocated, hslash, by simp [hnode]⟩, eq_of_permit_eq_ok h⟩

/-- What was put under a path is read under it again, unless the tree lets nobody read there. -/
theorem Leads.readFile_put (h : tree.Leads path place) (hread : tree.readRefusal place = none) :
    (tree.put place (.file content)).readFile path = .ok content := by
  unfold readFile
  simp only [locate?_put h.noDirectory h.located]
  simp [put, h.noSlash, hread, permit]

/-- `tree'` is `tree` but for the one file that `path` leads to, which holds `text` and can be read
again. -/
structure Stored (tree : FileTree) (path text : String) (place : Location) (tree' : FileTree) :
    Prop where
  leads : tree.Leads path place
  eq_put : tree' = tree.put place (.file text.toUTF8)
  reads : tree.readRefusal place = none → tree'.readText path = .ok text

theorem exists_stored (h : tree.writeFile path text.toUTF8 = .ok tree') :
    ∃ place, tree.Stored path text place tree' := by
  obtain ⟨place, hleads, rfl⟩ := put_of_writeFile h
  exact ⟨place, hleads, rfl, fun hread => readText_eq_ok_iff.mpr (hleads.readFile_put hread)⟩

end FileTree

/-! ## Messages -/

def errorLine (stage : String) (span? : Option Span) (message : String) : String :=
  stage ++ " error" ++
    span?.elim "" (fun span => " at " ++ toString span.line ++ ":" ++ toString span.column) ++
      ": " ++ message

theorem failureText_eq (stage : String) (failure : Failure) :
    failureText stage failure = errorLine stage failure.span? failure.message := by
  unfold failureText errorLine
  cases failure.span? with
  | none => simp [String.append_assoc]
  | some span =>
    have hwords : " error at " = " error" ++ " at " := rfl
    simp only [Span.text, hwords, Option.elim_some, String.append_assoc]

theorem oneLine_errorLine {stage message : String} (hstage : OneLine stage) (span? : Option Span)
    (hmessage : OneLine message) : OneLine (errorLine stage span? message) := by
  unfold OneLine at hstage hmessage
  unfold OneLine errorLine
  cases span? with
  | none => simp [hstage, hmessage]
  | some span => simp [hstage, hmessage]

structure Reports (said stage : String) (span? : Option Span) (message : String) : Prop where
  eq_errorLine : said = errorLine stage span? message ++ "\n"
  line : OneLine (errorLine stage span? message)
  message : OneLine message

/-! ## Sessions -/

abbrev Session := ExceptT String (StateM World)

section Session

variable {α β : Type}

/-- What a session has done so far stays done when it fails. -/
theorem session_bind (x : Session α) (f : α → Session β) (w : World) :
    (x >>= f) w =
      match x w with
      | (.ok a, w') => f a w'
      | (.error message, w') => (.error message, w') := by
  change ExceptT.bindCont f (x w).1 (x w).2 = _
  obtain ⟨result, w'⟩ := x w
  cases result <;> rfl

theorem session_lift (action : StateM World α) (w : World) :
    (liftM action : Session α) w =
      ((.ok (action w).1, (action w).2) : Except String α × World) := rfl

theorem session_except (result : Except String α) (w : World) :
    (liftM result : Session α) w = (result, w) := rfl

theorem concluded_of_ok {session : Session Unit} {w w' : World}
    (h : session w = ((.ok (), w') : Except String Unit × World)) :
    (concluded session : StateM World Nat) w = ((0, w') : Nat × World) := by
  unfold concluded
  simp only [ExceptT.run, bind, StateT.bind, h]
  rfl

theorem concluded_of_error {session : Session Unit} {w w' : World} {message : String}
    (h : session w = ((.error message, w') : Except String Unit × World)) :
    (concluded session : StateM World Nat) w =
      ((1, { w' with stderr := w'.stderr ++ (message ++ "\n") }) : Nat × World) := by
  unfold concluded
  simp only [ExceptT.run, bind, StateT.bind, h]
  rfl

end Session

namespace Options

variable {allocator : Allocator} {options : Options} {files files' : FileTree}
  {script path stdout message : String} {program : Program} {grid : Grid}

theorem sessionBy_apply (draw : Program → Except RunError Grid) (options : Options) (w : World) :
    (options.sessionBy draw : Session Unit) w =
      match w.files.readText options.input with
      | .error e => (.error (openFailureText options.input e), w)
      | .ok script =>
        match Program.parse script .standard with
        | .error e => (.error (failureText "Parse" (.script e)), w)
        | .ok program =>
          if options.check then
            (.ok (), { w with stdout := w.stdout ++ (options.input ++ ": ok\n") })
          else
            match draw program with
            | .error e => (.error (failureText "Evaluation" (.run e)), w)
            | .ok grid =>
              match options.output with
              | none => (.ok (), { w with stdout := w.stdout ++ grid.render })
              | some path =>
                match w.files.writeFile path grid.render.toUTF8 with
                | .error e => (.error (writeFailureText path e), w)
                | .ok files => (.ok (), { w with files }) := by
  rw [sessionBy, session_bind, session_lift]
  dsimp only [Host.readText]
  rw [session_bind, session_except]
  cases w.files.readText options.input with
  | error e => rfl
  | ok script =>
    dsimp only [Except.mapError]
    rw [session_bind, session_except]
    cases Program.parse script .standard with
    | error e => rfl
    | ok program =>
      dsimp only [Except.mapError]
      split
      · rfl
      · rw [session_bind, session_except]
        cases draw program with
        | error e => rfl
        | ok grid =>
          dsimp only [Except.mapError]
          cases options.output with
          | none => rfl
          | some path =>
            dsimp only
            rw [session_bind, session_lift]
            dsimp only [Host.writeFile]
            rw [session_except]
            cases w.files.writeFile path grid.render.toUTF8 <;> rfl

theorem run_of_session_ok
    (h : (options.sessionBy (Program.run allocator) : Session Unit) ⟨"", "", files⟩ =
      ((.ok (), ⟨stdout, "", files'⟩) : Except String Unit × World)) :
    options.run allocator files = .success stdout files' := by
  rw [run, runBy, Outcome.of, concluded_of_ok h, Outcome.success]

theorem run_of_session_error
    (h : (options.sessionBy (Program.run allocator) : Session Unit) ⟨"", "", files⟩ =
      ((.error message, ⟨"", "", files⟩) : Except String Unit × World)) :
    options.run allocator files = .failure message files := by
  rw [run, runBy, Outcome.of, concluded_of_error h, Outcome.failure]
  simp only [String.empty_append]

/-! ## Runs -/

def Reads (options : Options) (files : FileTree) (program : Program) : Prop :=
  ∃ script, files.readText options.input = .ok script ∧
    Program.parse script .standard = .ok program

def Draws (allocator : Allocator) (options : Options) (files : FileTree) (picture : String) :
    Prop :=
  ∃ script, files.readText options.input = .ok script ∧ interpret allocator script = .ok picture

/-- One of the stages that a run comes to fails. -/
inductive Fails (allocator : Allocator) (options : Options) (files : FileTree) : Prop
  | fetch {e : FileError} (fetched : files.readText options.input = .error e)
  | parse {script : String} {e : ScriptError} (fetched : files.readText options.input = .ok script)
      (parsed : Program.parse script .standard = .error e)
  | run {program : Program} {e : RunError} (drawing : options.check = false)
      (read : options.Reads files program) (ran : program.run allocator = .error e)
  | store {program : Program} {grid : Grid} {path : String} {e : FileError}
      (drawing : options.check = false) (read : options.Reads files program)
      (ran : program.run allocator = .ok grid) (output : options.output = some path)
      (stored : files.writeFile path grid.render.toUTF8 = .error e)

theorem run_of_unfetched {e : FileError} (fetched : files.readText options.input = .error e) :
    options.run allocator files = .failure (openFailureText options.input e) files := by
  apply run_of_session_error
  simp only [sessionBy_apply, fetched]

theorem run_of_unread {e : ScriptError} (fetched : files.readText options.input = .ok script)
    (parsed : Program.parse script .standard = .error e) :
    options.run allocator files = .failure (errorLine "Parse" e.span? e.message) files := by
  have hline : failureText "Parse" (.script e) = errorLine "Parse" e.span? e.message :=
    failureText_eq "Parse" (.script e)
  apply run_of_session_error
  simp only [sessionBy_apply, fetched, parsed, hline]

theorem run_of_check (checking : options.check = true) (read : options.Reads files program) :
    options.run allocator files = .success (options.input ++ ": ok\n") files := by
  obtain ⟨script, fetched, parsed⟩ := read
  apply run_of_session_ok
  simp only [sessionBy_apply, fetched, parsed, checking, if_true, String.empty_append]

/-- A check comes to its end before anything is run. -/
theorem runBy_eq_run_of_check (draw : Program → Except RunError Grid)
    (checking : options.check = true) :
    options.runBy draw files = options.run allocator files := by
  have hsession : (options.sessionBy draw : Session Unit) =
      options.sessionBy (Program.run allocator) := by
    funext w
    simp only [sessionBy_apply, checking, if_true]
  rw [run, runBy, runBy, hsession]

theorem run_of_undrawn {e : RunError} (drawing : options.check = false)
    (read : options.Reads files program) (ran : program.run allocator = .error e) :
    options.run allocator files =
      .failure (errorLine "Evaluation" e.span e.cause.message) files := by
  obtain ⟨script, fetched, parsed⟩ := read
  have hline : failureText "Evaluation" (.run e) = errorLine "Evaluation" e.span e.cause.message :=
    failureText_eq "Evaluation" (.run e)
  apply run_of_session_error
  simp only [sessionBy_apply, fetched, parsed, drawing, ran, hline, Bool.false_eq_true, if_false]

theorem run_of_print (drawing : options.check = false) (read : options.Reads files program)
    (ran : program.run allocator = .ok grid) (output : options.output = none) :
    options.run allocator files = .success grid.render files := by
  obtain ⟨script, fetched, parsed⟩ := read
  apply run_of_session_ok
  simp only [sessionBy_apply, fetched, parsed, drawing, ran, output, Bool.false_eq_true, if_false,
    String.empty_append]

theorem run_of_stored (drawing : options.check = false) (read : options.Reads files program)
    (ran : program.run allocator = .ok grid) (output : options.output = some path)
    (stored : files.writeFile path grid.render.toUTF8 = .ok files') :
    options.run allocator files = .success "" files' := by
  obtain ⟨script, fetched, parsed⟩ := read
  apply run_of_session_ok
  simp only [sessionBy_apply, fetched, parsed, drawing, ran, output, stored, Bool.false_eq_true,
    if_false]

theorem run_of_unstored {e : FileError} (drawing : options.check = false)
    (read : options.Reads files program) (ran : program.run allocator = .ok grid)
    (output : options.output = some path)
    (stored : files.writeFile path grid.render.toUTF8 = .error e) :
    options.run allocator files = .failure (writeFailureText path e) files := by
  obtain ⟨script, fetched, parsed⟩ := read
  apply run_of_session_error
  simp only [sessionBy_apply, fetched, parsed, drawing, ran, output, stored, Bool.false_eq_true,
    if_false]

theorem Draws.exists_run {picture : String} (h : options.Draws allocator files picture) :
    ∃ program grid,
      options.Reads files program ∧ program.run allocator = .ok grid ∧ grid.render = picture := by
  obtain ⟨script, fetched, drawn⟩ := h
  obtain ⟨program, grid, parsed, ran, hpicture⟩ := interpret_eq_ok_iff.mp drawn
  exact ⟨program, grid, ⟨script, fetched, parsed⟩, ran, hpicture⟩

theorem Reads.draws (h : options.Reads files program) (ran : program.run allocator = .ok grid) :
    options.Draws allocator files grid.render := by
  obtain ⟨script, fetched, parsed⟩ := h
  exact ⟨script, fetched, interpret_eq_ok_iff.mpr ⟨program, grid, parsed, ran, rfl⟩⟩

/-- A run that fails says something, and does nothing else. -/
theorem Fails.exists_run_eq (h : options.Fails allocator files) :
    ∃ message, options.run allocator files = .failure message files := by
  cases h with
  | fetch fetched => exact ⟨_, run_of_unfetched fetched⟩
  | parse fetched parsed => exact ⟨_, run_of_unread fetched parsed⟩
  | run drawing read ran => exact ⟨_, run_of_undrawn drawing read ran⟩
  | store drawing read ran output stored =>
    exact ⟨_, run_of_unstored drawing read ran output stored⟩

theorem Fails.outcome (h : options.Fails allocator files) :
    (options.run allocator files).code = 1 ∧ (options.run allocator files).stdout = "" ∧
      (options.run allocator files).files = files := by
  obtain ⟨message, hrun⟩ := h.exists_run_eq
  rw [hrun]
  exact ⟨rfl, rfl, rfl⟩

/-- What a run that does not fail has printed, and the files it leaves. -/
inductive Succeeds (allocator : Allocator) (options : Options) (files : FileTree) :
    String → FileTree → Prop
  | check {program : Program} (checking : options.check = true)
      (read : options.Reads files program) :
    Succeeds allocator options files (options.input ++ ": ok\n") files
  | print {picture : String} (drawing : options.check = false) (output : options.output = none)
      (drawn : options.Draws allocator files picture) :
    Succeeds allocator options files picture files
  | store {picture path : String} {files' : FileTree} (drawing : options.check = false)
      (output : options.output = some path) (drawn : options.Draws allocator files picture)
      (stored : files.writeFile path picture.toUTF8 = .ok files') :
    Succeeds allocator options files "" files'

theorem Succeeds.run_eq (h : options.Succeeds allocator files stdout files') :
    options.run allocator files = .success stdout files' := by
  cases h with
  | check checking read => exact run_of_check checking read
  | print drawing output drawn =>
    obtain ⟨program, grid, read, ran, rfl⟩ := drawn.exists_run
    exact run_of_print drawing read ran output
  | store drawing output drawn stored =>
    obtain ⟨program, grid, read, ran, rfl⟩ := drawn.exists_run
    exact run_of_stored drawing read ran output stored

/-- There is no third way for a run to end. -/
theorem fails_or_succeeds (allocator : Allocator) (options : Options) (files : FileTree) :
    options.Fails allocator files ∨
      ∃ stdout files', options.Succeeds allocator files stdout files' := by
  cases fetched : files.readText options.input with
  | error e => exact .inl (.fetch fetched)
  | ok script =>
    cases parsed : Program.parse script .standard with
    | error e => exact .inl (.parse fetched parsed)
    | ok program =>
      have read : options.Reads files program := ⟨script, fetched, parsed⟩
      cases checking : options.check with
      | true => exact .inr ⟨_, _, .check checking read⟩
      | false =>
        cases ran : program.run allocator with
        | error e => exact .inl (.run checking read ran)
        | ok grid =>
          cases output : options.output with
          | none => exact .inr ⟨_, _, .print checking output (read.draws ran)⟩
          | some path =>
            cases stored : files.writeFile path grid.render.toUTF8 with
            | error e => exact .inl (.store checking read ran output stored)
            | ok files' => exact .inr ⟨_, _, .store checking output (read.draws ran) stored⟩

/-- The code tells whether a run has failed. -/
theorem run_code_eq_zero_iff :
    (options.run allocator files).code = 0 ↔
      ∃ stdout files', options.Succeeds allocator files stdout files' := by
  constructor
  · intro hcode
    refine (fails_or_succeeds allocator options files).resolve_left fun hfails => ?_
    rw [hfails.outcome.1] at hcode
    cases hcode
  · rintro ⟨stdout, files', hsucceeds⟩
    rw [hsucceeds.run_eq]
    rfl

theorem Draws.unique {picture picture' : String} (h : options.Draws allocator files picture)
    (h' : options.Draws allocator files picture') : picture = picture' := by
  obtain ⟨script, fetched, drawn⟩ := h
  obtain ⟨script', fetched', drawn'⟩ := h'
  obtain rfl := Except.ok.inj (fetched.symm.trans fetched')
  exact Except.ok.inj (drawn.symm.trans drawn')

/-- A run changes files only when it has drawn something to store. -/
theorem run_files_eq (h : options.check = true ∨ options.output = none) :
    (options.run allocator files).files = files := by
  obtain hfails | ⟨stdout, files', hsucceeds⟩ := fails_or_succeeds allocator options files
  · exact hfails.outcome.2.2
  · rw [hsucceeds.run_eq]
    cases hsucceeds with
    | check _ _ => rfl
    | print _ _ _ => rfl
    | store drawing output _ _ => simp [drawing, output] at h

/-- A run that may store something prints nothing. -/
theorem run_stdout_eq (drawing : options.check = false) (output : options.output = some path) :
    (options.run allocator files).stdout = "" := by
  obtain hfails | ⟨stdout, files', hsucceeds⟩ := fails_or_succeeds allocator options files
  · exact hfails.outcome.2.1
  · rw [hsucceeds.run_eq]
    cases hsucceeds with
    | check checking _ => simp [drawing] at checking
    | print _ none _ => simp [output] at none
    | store _ _ _ _ => rfl

theorem code_iff_of_check (checking : options.check = true) :
    (options.run allocator files).code = 0 ↔ ∃ program, options.Reads files program := by
  rw [run_code_eq_zero_iff]
  constructor
  · rintro ⟨stdout, files', hsucceeds⟩
    cases hsucceeds with
    | check _ read => exact ⟨_, read⟩
    | print drawing _ _ => simp [checking] at drawing
    | store drawing _ _ _ => simp [checking] at drawing
  · rintro ⟨program, read⟩
    exact ⟨_, _, .check checking read⟩

theorem code_iff_of_print (drawing : options.check = false) (output : options.output = none) :
    (options.run allocator files).code = 0 ↔ ∃ picture, options.Draws allocator files picture := by
  rw [run_code_eq_zero_iff]
  constructor
  · rintro ⟨stdout, files', hsucceeds⟩
    cases hsucceeds with
    | check checking _ => simp [drawing] at checking
    | print _ _ drawn => exact ⟨_, drawn⟩
    | store _ some _ _ => simp [output] at some
  · rintro ⟨picture, drawn⟩
    exact ⟨_, _, .print drawing output drawn⟩

theorem code_iff_of_store (drawing : options.check = false) (output : options.output = some path) :
    (options.run allocator files).code = 0 ↔
      ∃ picture, options.Draws allocator files picture ∧
        ∃ files', files.writeFile path picture.toUTF8 = .ok files' := by
  rw [run_code_eq_zero_iff]
  constructor
  · rintro ⟨stdout, files', hsucceeds⟩
    cases hsucceeds with
    | check checking _ => simp [drawing] at checking
    | print _ none _ => simp [output] at none
    | store _ some drawn stored =>
      obtain rfl := Option.some.inj (some.symm.trans output)
      exact ⟨_, drawn, _, stored⟩
  · rintro ⟨picture, drawn, files', stored⟩
    exact ⟨_, _, .store drawing output drawn stored⟩

end Options

/-- The whole of what a run may do, given the files it starts with. -/
structure AllOrNothing (allocator : Allocator) (options : Options) (files : FileTree)
    (outcome : Outcome) : Prop where
  fails : options.Fails allocator files →
    outcome.code = 1 ∧ outcome.stdout = "" ∧ outcome.files = files
  succeeds : ¬ options.Fails allocator files → outcome.code = 0 ∧ outcome.stderr = ""
  parse_error : ∀ script e, files.readText options.input = .ok script →
    Program.parse script .standard = .error e → Reports outcome.stderr "Parse" e.span? e.message
  run_error : options.check = false → ∀ program e, options.Reads files program →
    program.run allocator = .error e → Reports outcome.stderr "Evaluation" e.span e.cause.message
  /-- A check reads the script. It does not matter what would come of running it. -/
  check : options.check = true →
    (outcome.code = 0 ↔ ∃ program, options.Reads files program) ∧
      (outcome.code = 0 → outcome.stdout = options.input ++ ": ok\n") ∧
        outcome.files = files ∧ ∀ draw, options.runBy draw files = outcome
  print : options.check = false → options.output = none →
    (outcome.code = 0 ↔ ∃ picture, options.Draws allocator files picture) ∧
      outcome.files = files ∧
        ∀ picture, options.Draws allocator files picture → outcome.stdout = picture
  store : options.check = false → ∀ path, options.output = some path →
    (outcome.code = 0 ↔
        ∃ picture, options.Draws allocator files picture ∧
          ∃ files', files.writeFile path picture.toUTF8 = .ok files') ∧
      outcome.stdout = "" ∧
        ∀ picture, options.Draws allocator files picture → outcome.code = 0 →
          ∃ place, files.Stored path picture place outcome.files

/-- Whatever the options, the files and the room for cells, a run either fails and leaves everything
as it was, or does all that it was asked for. The code tells which, and a failure of the interpreter
is reported in one line. -/
theorem command_line_all_or_nothing (allocator : Allocator) (options : Options)
    (files : FileTree) : AllOrNothing allocator options files (options.run allocator files) where
  fails := Options.Fails.outcome
  succeeds := by
    intro hfails
    obtain ⟨stdout, files', hsucceeds⟩ :=
      (options.fails_or_succeeds allocator files).resolve_left hfails
    rw [hsucceeds.run_eq]
    exact ⟨rfl, rfl⟩
  parse_error := by
    intro script e fetched parsed
    have hmessage := ScriptError.oneLine_message_of_parse parsed
    rw [Options.run_of_unread fetched parsed]
    exact ⟨rfl, oneLine_errorLine (by decide) e.span? hmessage, hmessage⟩
  run_error := by
    intro drawing program e read ran
    have hmessage := e.cause.oneLine_message
    rw [Options.run_of_undrawn drawing read ran]
    exact ⟨rfl, oneLine_errorLine (by decide) e.span hmessage, hmessage⟩
  check := by
    intro checking
    refine ⟨Options.code_iff_of_check checking, ?_, Options.run_files_eq (.inl checking), ?_⟩
    · intro hcode
      obtain ⟨program, read⟩ := (Options.code_iff_of_check checking).mp hcode
      rw [Options.run_of_check checking read]
      rfl
    · intro draw
      exact Options.runBy_eq_run_of_check draw checking
  print := by
    intro drawing output
    refine ⟨Options.code_iff_of_print drawing output, Options.run_files_eq (.inr output), ?_⟩
    intro picture drawn
    rw [(Options.Succeeds.print drawing output drawn).run_eq]
    rfl
  store := by
    intro drawing path output
    refine ⟨Options.code_iff_of_store drawing output, Options.run_stdout_eq drawing output, ?_⟩
    intro picture drawn hcode
    obtain ⟨picture', drawn', files', stored⟩ := (Options.code_iff_of_store drawing output).mp hcode
    obtain rfl := drawn.unique drawn'
    rw [(Options.Succeeds.store drawing output drawn stored).run_eq]
    exact FileTree.exists_stored stored

/-- A picture takes the place of its own script. A script that leads off the grid passes the check,
stays where it is and says what is wrong with it. -/
theorem command_line_all_or_nothing_same_file :
    let holding (script : String) := FileTree.fresh.put ["a", "work"] (.file script.toUTF8)
    let drawing : Options := ⟨"a", some "a", false⟩
    let checking : Options := ⟨"a", some "a", true⟩
    let allocator : Allocator := fun _ => true
    ((drawing.run allocator (holding "3 FD 1")).code = 0 ∧
        (drawing.run allocator (holding "3 FD 1")).files.readText "a" =
          .ok ". X .\n. X .\n. . .\n") ∧
      (checking.run allocator (holding "3 FD 2")).code = 0 ∧
        (drawing.run allocator (holding "3 FD 2")).code = 1 ∧
          (drawing.run allocator (holding "3 FD 2")).files = holding "3 FD 2" ∧
            (drawing.run allocator (holding "3 FD 2")).stderr =
              "Evaluation error at 1:3: (1, -1) is off the edge of the 3x3 grid\n" := by
  intro holding drawing checking allocator
  have hleads : FileTree.fresh.Leads "a" ["a", "work"] :=
    ⟨rfl, by decide +kernel, by simp [FileTree.fresh]⟩
  have hfetched (script : String) : (holding script).readText "a" = .ok script :=
    FileTree.readText_eq_ok_iff.mpr (hleads.readFile_put rfl)
  have hdrawn : drawing.Draws allocator (holding "3 FD 1") ". X .\n. X .\n. . .\n" :=
    ⟨"3 FD 1", hfetched _, by decide +kernel⟩
  have hread (options : Options) (hinput : options.input = "a") :
      options.Reads (holding "3 FD 2") ⟨3, [.step .forward 2 ⟨2, 4, 1, 3⟩]⟩ :=
    ⟨"3 FD 2", hinput ▸ hfetched _, by decide +kernel⟩
  have hran : Program.run allocator ⟨3, [.step .forward 2 ⟨2, 4, 1, 3⟩]⟩ =
      .error ⟨.outOfBounds ⟨1, -1⟩ 3, some ⟨2, 4, 1, 3⟩⟩ := by rfl
  refine ⟨?_, ?_, ?_⟩
  · obtain ⟨hcode, -, hstored⟩ :=
      (command_line_all_or_nothing allocator drawing (holding "3 FD 1")).store rfl "a" rfl
    have hzero := hcode.mpr ⟨_, hdrawn, _, rfl⟩
    obtain ⟨place, stored⟩ := hstored _ hdrawn hzero
    exact ⟨hzero, stored.reads rfl⟩
  · have hall := command_line_all_or_nothing allocator checking (holding "3 FD 2")
    obtain ⟨hcode, -⟩ := hall.check rfl
    exact hcode.mpr ⟨_, hread checking rfl⟩
  · have hall := command_line_all_or_nothing allocator drawing (holding "3 FD 2")
    obtain ⟨hcode, -, hfiles⟩ := hall.fails (.run rfl (hread drawing rfl) hran)
    exact ⟨hcode, hfiles, (hall.run_error rfl _ _ (hread drawing rfl) hran).eq_errorLine⟩

end CommandLine

end TurtleGraphics
