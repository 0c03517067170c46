import TurtleGraphics.Proofs.Drawing.Calls
import TurtleGraphics.Proofs.Script.Acceptance
import TurtleGraphics.Script.Stream

/-!
# What clients can do to a stream

A client is any code that works on a stream of words: it looks at it, takes words, works inside
blocks, and makes calls whose failures it may handle. Its `log` says what happens to the stream on
the way. Whatever the client does, each event of the log is `Lawful`, and all the rest follows from
that: the words stay what they are, the position never goes back nor past the last word, and a block
is left as it was entered, however it ends.

A client can also work on a reading, which has nothing but the words that are left. The reader of
commands is such a client, and on a stream a client does just what it does on the rest of it
(`Client.runOn_eq_call`), so what holds of clients holds of the reader of commands.
-/

namespace TurtleGraphics

/-- Code that works on a stream and gives back a value or fails. -/
inductive Client : Type → Type 1
  | done {α : Type} (a : α) : Client α
  | fail {α : Type} (e : ScriptError) : Client α
  | peek : Client (Option Word)
  /-- Sees all that is left. -/
  | look : Client Reading
  | take : Client (Option Word)
  | block {α : Type} (keyword : Word) (body : Client α) : Client α
  /-- Goes on after a call, which may have failed. -/
  | attempt {α β : Type} (call : Client α) (next : Except ScriptError α → Client β) : Client β

structure WordStream.Within (words : Array Word) (s : WordStream) : Prop where
  words_eq : s.words = words
  position_le : s.position ≤ s.words.size
  depth_le : s.depth ≤ maxDepth

theorem WordStream.leave_of_depth_eq {s : WordStream} {depth : Nat} (h : s.depth = depth + 1) :
    s.leave = ⟨s.words, s.position, depth⟩ := by
  rw [leave, h, Nat.add_sub_cancel]

def returned {σ α : Type} : EStateM.Result ScriptError σ α → Except ScriptError α
  | .ok a _ => .ok a
  | .error e _ => .error e

namespace Client

inductive Action where
  | look
  | take
  | refuse (keyword : Word)
  | enter (keyword : Word)
  /-- Leaves the block that was entered when the stream was as in `called`. -/
  | leave (called : WordStream)
  /-- Comes back from a call that was made when the stream was as in `called`. -/
  | back (called : WordStream)

/-- What an action of a client may do to a stream. -/
def Action.Lawful (s s' : WordStream) : Action → Prop
  | look => s' = s
  | take => s' = ⟨s.words, min (s.position + 1) s.words.size, s.depth⟩
  | refuse _ => s.depth = maxDepth ∧ s' = s
  | enter _ => s.depth < maxDepth ∧ s' = ⟨s.words, s.position, s.depth + 1⟩
  | leave called => s.depth = called.depth + 1 ∧ s' = ⟨s.words, s.position, called.depth⟩
  | back called => s.depth = called.depth ∧ s' = s

structure Event where
  action : Action
  before : WordStream
  after : WordStream

/-- Lawful events lead from one stream to another, each from where the one before it ends. -/
inductive Path : WordStream → List Event → WordStream → Prop
  | nil (s : WordStream) : Path s [] s
  | cons {action : Action} {events : List Event} {s s' s'' : WordStream}
      (lawful : action.Lawful s s') (path : Path s' events s'') :
      Path s (⟨action, s, s'⟩ :: events) s''

def run : {α : Type} → Client α → Reader α
  | _, done a => pure a
  | _, fail e => throw e
  | _, peek => fun r => .ok r.next? r
  | _, look => get
  | _, take => Reader.take?
  | _, block keyword body => Reader.block keyword body.run
  | _, attempt call next => fun r =>
    (next (returned (call.run r))).run (finalState (call.run r))

def runOn : {α : Type} → Client α → EStateM ScriptError WordStream α
  | _, done a => pure a
  | _, fail e => throw e
  | _, peek => fun s => .ok s.peek? s
  | _, look => fun s => .ok s.reading s
  | _, take => WordStream.pop
  | _, block keyword body => WordStream.block keyword body.runOn
  | _, attempt call next => fun s =>
    (next (returned (call.runOn s))).runOn (finalState (call.runOn s))

/-- What happens to a stream while the client runs on it, in order. -/
def log : {α : Type} → Client α → WordStream → List Event
  | _, done _, _ => []
  | _, fail _, _ => []
  | _, peek, s => [⟨.look, s, s⟩]
  | _, look, s => [⟨.look, s, s⟩]
  | _, take, s => [⟨.take, s, finalState (WordStream.pop s)⟩]
  | _, block keyword body, s =>
    match s.enter keyword with
    | .error _ => [⟨.refuse keyword, s, s⟩]
    | .ok inside =>
      let last := finalState (body.runOn inside)
      ⟨.enter keyword, s, inside⟩ :: (body.log inside ++ [⟨.leave s, last, last.leave⟩])
  | _, attempt call next, s =>
    let last := finalState (call.runOn s)
    call.log s ++ ⟨.back s, last, last⟩ :: (next (returned (call.runOn s))).log last

section Laws

variable {action : Action} {events more : List Event} {s s' s'' : WordStream} {words : Array Word}

namespace Action.Lawful

theorem within (h : action.Lawful s s') (hs : s.Within words) : s'.Within words := by
  obtain ⟨hwords, hposition, hdepth⟩ := hs
  cases action with
  | look =>
    obtain rfl : s' = s := h
    exact ⟨hwords, hposition, hdepth⟩
  | take =>
    obtain rfl : s' = ⟨s.words, min (s.position + 1) s.words.size, s.depth⟩ := h
    exact ⟨hwords, Nat.min_le_right _ _, hdepth⟩
  | refuse keyword =>
    obtain ⟨-, rfl⟩ := h
    exact ⟨hwords, hposition, hdepth⟩
  | enter keyword =>
    obtain ⟨hroom, rfl⟩ := h
    exact ⟨hwords, hposition, hroom⟩
  | leave called =>
    obtain ⟨hcalled, rfl⟩ := h
    rw [hcalled] at hdepth
    exact ⟨hwords, hposition, Nat.le_of_succ_le hdepth⟩
  | back called =>
    obtain ⟨-, rfl⟩ := h
    exact ⟨hwords, hposition, hdepth⟩

/-- No action goes back in the words. -/
theorem position_le (h : action.Lawful s s') (hs : s.Within words) : s.position ≤ s'.position := by
  cases action with
  | look =>
    obtain rfl : s' = s := h
    exact Nat.le_refl _
  | take =>
    obtain rfl : s' = ⟨s.words, min (s.position + 1) s.words.size, s.depth⟩ := h
    exact Nat.le_min.mpr ⟨Nat.le_succ _, hs.position_le⟩
  | refuse keyword =>
    obtain ⟨-, rfl⟩ := h
    exact Nat.le_refl _
  | enter keyword =>
    obtain ⟨-, rfl⟩ := h
    exact Nat.le_refl _
  | leave called =>
    obtain ⟨-, rfl⟩ := h
    exact Nat.le_refl _
  | back called =>
    obtain ⟨-, rfl⟩ := h
    exact Nat.le_refl _

end Action.Lawful

namespace Path

theorem append (h : Path s events s') (h' : Path s' more s'') : Path s (events ++ more) s'' := by
  induction h with
  | nil s => exact h'
  | cons lawful path ih => exact .cons lawful (ih h')

theorem within_last (h : Path s events s') (hs : s.Within words) : s'.Within words := by
  induction h with
  | nil s => exact hs
  | cons lawful path ih => exact ih (lawful.within hs)

theorem within (h : Path s events s') (hs : s.Within words) :
    ∀ event ∈ events, event.before.Within words ∧ event.after.Within words := by
  induction h with
  | nil s => exact List.forall_mem_nil _
  | cons lawful path ih =>
    have hafter := lawful.within hs
    exact List.forall_mem_cons.mpr ⟨⟨hs, hafter⟩, ih hafter⟩

theorem position_le_after (h : Path s events s') (hs : s.Within words) :
    ∀ event ∈ events, s.position ≤ event.after.position := by
  induction h with
  | nil s => exact List.forall_mem_nil _
  | cons lawful path ih =>
    have hle := lawful.position_le hs
    exact List.forall_mem_cons.mpr
      ⟨hle, fun event hevent => Nat.le_trans hle (ih (lawful.within hs) event hevent)⟩

/-- Of any two moments, the later one has the position that is further on, or the same. -/
theorem pairwise_position (h : Path s events s') (hs : s.Within words) :
    (s :: events.map Event.after).Pairwise fun t t' => t.position ≤ t'.position := by
  induction h with
  | nil s => exact List.pairwise_singleton _ _
  | cons lawful path ih =>
    refine List.pairwise_cons.mpr ⟨?_, ih (lawful.within hs)⟩
    exact List.forall_mem_map.mpr (position_le_after (.cons lawful path) hs)

end Path

end Laws

variable {α β : Type} {s : WordStream} {words : Array Word}

/-- Taking a word moves the stream on by one, and leaves it as it is at its end. -/
theorem lawful_pop (h : s.position ≤ s.words.size) :
    Action.take.Lawful s (finalState (WordStream.pop s)) := by
  unfold WordStream.pop
  cases hnext : s.peek? with
  | none =>
    have hend := WordStream.size_le_of_peek? hnext
    have hmin : min (s.position + 1) s.words.size = s.position := by omega
    simp only [Action.Lawful, hmin, finalState]
  | some word =>
    have hlt := WordStream.position_lt_of_peek? hnext
    have hmin : min (s.position + 1) s.words.size = s.position + 1 := by omega
    simp only [Action.Lawful, hmin, finalState]

theorem depth_pop (s : WordStream) : (finalState (WordStream.pop s)).depth = s.depth := by
  unfold WordStream.pop
  cases s.peek? <;> rfl

theorem block_of_full (keyword : Word) (body : Client α) (h : s.depth = maxDepth) :
    (block keyword body).runOn s = .error (.nestedTooDeep keyword) s ∧
      (block keyword body).log s = [⟨.refuse keyword, s, s⟩] := by
  have hfull : ¬ s.depth < maxDepth := h ▸ Nat.lt_irrefl _
  refine ⟨WordStream.block_of_full keyword body.runOn (Nat.le_of_eq h.symm), ?_⟩
  simp only [log, WordStream.enter, if_neg hfull]

def inside (s : WordStream) : WordStream :=
  ⟨s.words, s.position, s.depth + 1⟩

theorem within_inside (hs : s.Within words) (h : s.depth < maxDepth) : (inside s).Within words :=
  ⟨hs.words_eq, hs.position_le, h⟩

theorem log_block_of_room (keyword : Word) (body : Client α) (h : s.depth < maxDepth) :
    (block keyword body).log s = ⟨.enter keyword, s, inside s⟩ ::
      (body.log (inside s) ++
        [⟨.leave s, finalState (body.runOn (inside s)),
          (finalState (body.runOn (inside s))).leave⟩]) := by
  simp only [log, WordStream.enter, if_pos h, inside]

def outside (depth : Nat) :
    EStateM.Result ScriptError WordStream α → EStateM.Result ScriptError WordStream α
  | .ok a s => .ok a ⟨s.words, s.position, depth⟩
  | .error e s => .error e ⟨s.words, s.position, depth⟩

theorem finalState_outside (depth : Nat) (result : EStateM.Result ScriptError WordStream α) :
    finalState (outside depth result) =
      ⟨(finalState result).words, (finalState result).position, depth⟩ := by
  cases result <;> rfl

/-- A body that comes back at the depth at which it was called is outside of its block again. -/
theorem runOn_block_of_room (keyword : Word) (body : Client α) (h : s.depth < maxDepth)
    (hbody : (finalState (body.runOn (inside s))).depth = s.depth + 1) :
    (block keyword body).runOn s = outside s.depth (body.runOn (inside s)) := by
  rw [runOn, WordStream.block_of_room keyword body.runOn h]
  change _ = outside s.depth (body.runOn ⟨s.words, s.position, s.depth + 1⟩)
  cases hresult : body.runOn ⟨s.words, s.position, s.depth + 1⟩ with
  | ok a last =>
    rw [inside, hresult] at hbody
    exact congrArg (EStateM.Result.ok a) (WordStream.leave_of_depth_eq hbody)
  | error e last =>
    rw [inside, hresult] at hbody
    exact congrArg (EStateM.Result.error e) (WordStream.leave_of_depth_eq hbody)

/-- A client does nothing but lawful events, and comes back at the depth at which it was called. -/
theorem path_runOn (client : Client α) (hs : s.Within words) :
    Path s (client.log s) (finalState (client.runOn s)) ∧
      (finalState (client.runOn s)).depth = s.depth := by
  induction client generalizing s with
  | done a => exact ⟨.nil s, rfl⟩
  | fail e => exact ⟨.nil s, rfl⟩
  | peek => exact ⟨.cons rfl (.nil s), rfl⟩
  | look => exact ⟨.cons rfl (.nil s), rfl⟩
  | take => exact ⟨.cons (lawful_pop hs.position_le) (.nil _), depth_pop s⟩
  | block keyword body ih =>
    rcases Nat.eq_or_lt_of_le hs.depth_le with hfull | hroom
    · obtain ⟨hrun, hlog⟩ := block_of_full keyword body hfull
      rw [hrun, hlog]
      exact ⟨.cons ⟨hfull, rfl⟩ (.nil s), rfl⟩
    · obtain ⟨hpath, hdepth⟩ := ih (within_inside hs hroom)
      -- The body ends one block deeper, failed or not, so that leaving takes nothing from zero.
      rw [log_block_of_room keyword body hroom, runOn_block_of_room keyword body hroom hdepth,
        finalState_outside, WordStream.leave_of_depth_eq hdepth]
      exact ⟨.cons ⟨hroom, rfl⟩ (hpath.append (.cons ⟨hdepth, rfl⟩ (.nil _))), rfl⟩
  | attempt call next ih_call ih_next =>
    obtain ⟨hcall, hback⟩ := ih_call hs
    obtain ⟨hnext, hdepth⟩ := ih_next (returned (call.runOn s)) (hcall.within_last hs)
    exact ⟨hcall.append (.cons ⟨hback, rfl⟩ hnext), hdepth.trans hback⟩

/-- A block is refused when no more blocks may be opened, and only then. Its body is then not run;
otherwise it is run one block deeper. -/
theorem block_law (keyword : Word) (body : Client α) (hs : s.Within words) :
    ((block keyword body).log s = [⟨.refuse keyword, s, s⟩] ↔ s.depth = maxDepth) ∧
      (block keyword body).runOn s =
        if s.depth = maxDepth then .error (.nestedTooDeep keyword) s
        else outside s.depth (body.runOn (inside s)) := by
  rcases Nat.eq_or_lt_of_le hs.depth_le with hfull | hroom
  · obtain ⟨hrun, hlog⟩ := block_of_full keyword body hfull
    rw [if_pos hfull]
    exact ⟨iff_of_true hlog hfull, hrun⟩
  · rw [if_neg (Nat.ne_of_lt hroom), log_block_of_room keyword body hroom]
    refine ⟨iff_of_false ?_ (Nat.ne_of_lt hroom),
      runOn_block_of_room keyword body hroom (body.path_runOn (within_inside hs hroom)).2⟩
    intro hlog
    cases hlog

/-- A result on a stream, as far as it concerns what is left. -/
def seen : EStateM.Result ScriptError WordStream α → EStateM.Result ScriptError Reading α
  | .ok a s => .ok a s.reading
  | .error e s => .error e s.reading

theorem finalState_seen (result : EStateM.Result ScriptError WordStream α) :
    finalState (seen result) = (finalState result).reading := by
  cases result <;> rfl

theorem returned_seen (result : EStateM.Result ScriptError WordStream α) :
    returned (seen result) = returned result := by
  cases result <;> rfl

theorem seen_pop (s : WordStream) : seen (WordStream.pop s) = Reader.take? s.reading := by
  have hreading : s.reading = ⟨s.reading.rest, s.depth⟩ := rfl
  unfold WordStream.pop
  cases hnext : s.peek? with
  | none =>
    rw [hreading, WordStream.rest_of_peek?_eq_none hnext, Reader.take?_nil, seen, hreading,
      WordStream.rest_of_peek?_eq_none hnext]
  | some word =>
    rw [hreading, WordStream.rest_of_peek?_eq_some hnext, Reader.take?_cons]
    rfl

theorem seen_block (keyword : Word) {body : Client α} (s : WordStream)
    (hbody : s.depth < maxDepth → seen (body.runOn (inside s)) = body.run (inside s).reading) :
    seen ((block keyword body).runOn s) = (block keyword body).run s.reading := by
  rw [runOn, run]
  by_cases hroom : s.depth < maxDepth
  · have hroom' : s.reading.depth < maxDepth := hroom
    have hbody : seen (body.runOn ⟨s.words, s.position, s.depth + 1⟩) =
        body.run ⟨s.reading.rest, s.reading.depth + 1⟩ := hbody hroom
    rw [WordStream.block_of_room keyword _ hroom, Reader.block_of_room keyword _ hroom', ← hbody]
    cases body.runOn ⟨s.words, s.position, s.depth + 1⟩ <;> rfl
  · have hfull : maxDepth ≤ s.depth := Nat.le_of_not_lt hroom
    have hfull' : maxDepth ≤ s.reading.depth := hfull
    rw [WordStream.block_of_full keyword _ hfull, Reader.block_of_full keyword _ hfull', seen]

/-- What a client does on a stream looks the same to one who knows only what is left of it. -/
theorem seen_runOn (client : Client α) (s : WordStream) :
    seen (client.runOn s) = client.run s.reading := by
  induction client generalizing s with
  | done a => rfl
  | fail e => rfl
  | peek => exact congrArg (EStateM.Result.ok · s.reading) s.next?_reading.symm
  | look => rfl
  | take => exact seen_pop s
  | block keyword body ih => exact seen_block keyword s fun _ => ih (inside s)
  | attempt call next ih_call ih_next =>
    rw [runOn, run, ih_next, ← finalState_seen, ← returned_seen, ih_call]

/-- On a stream a client does what it does on the words that are left, and takes as many of them. -/
theorem runOn_eq_call (client : Client α) (hs : s.Within words) :
    client.runOn s = WordStream.call client.run s := by
  have hlast := (client.path_runOn hs).1.within_last hs
  have hwords : (finalState (client.runOn s)).words = s.words :=
    hlast.words_eq.trans hs.words_eq.symm
  have hresume := WordStream.resume_reading hwords hlast.position_le
  rw [WordStream.call, ← client.seen_runOn s]
  cases hresult : client.runOn s with
  | ok a last =>
    rw [hresult] at hresume
    exact congrArg (EStateM.Result.ok a) hresume.symm
  | error e last =>
    rw [hresult] at hresume
    exact congrArg (EStateM.Result.error e) hresume.symm

def bind (call : Client α) (next : α → Client β) : Client β :=
  attempt call fun
    | .ok a => next a
    | .error e => fail e

instance : Monad Client where
  pure := done
  bind := bind

theorem run_pure (a : α) : (pure a : Client α).run = pure a := rfl

theorem run_bind (call : Client α) (next : α → Client β) :
    (call >>= next).run = call.run >>= fun a => (next a).run := by
  funext r
  rw [Reader.bind_apply]
  change (bind call next).run r = _
  simp only [bind, run]
  cases call.run r <;> rfl

def argument (keyword : Word) : Client Int := do
  match ← take with
  | none => fail (.missingArgument keyword)
  | some word =>
    match word.number? with
    | none => fail (.malformedArgument keyword.text word)
    | some n => return n

theorem run_argument (keyword : Word) : (argument keyword).run = Reader.argument keyword := by
  rw [argument, run_bind, Reader.argument]
  refine congrArg (Reader.take? >>= ·) (funext fun word? => ?_)
  cases word? with
  | none => rfl
  | some word =>
    dsimp only
    cases word.number? <;> rfl

def openBracket (keyword : Word) : Client Unit := do
  match ← take with
  | none => fail (.missingBlockAtEnd keyword)
  | some word =>
    if word.isOpenBracket then return () else fail (.missingBlock keyword.text word)

theorem run_openBracket (keyword : Word) :
    (openBracket keyword).run = Reader.openBracket keyword := by
  rw [openBracket, run_bind, Reader.openBracket]
  refine congrArg (Reader.take? >>= ·) (funext fun word? => ?_)
  cases word? with
  | none => rfl
  | some word =>
    dsimp only
    split <;> rfl

/-- A rule that is neither for a step nor for a loop is not known to a client. -/
def readCommand (v : Vocabulary) (block : Word → Client (List Command)) (keyword : Word) :
    Client Command :=
  match v.find? keyword.text with
  | some (.step motion) => do
    let amount ← argument keyword
    return .step motion amount keyword.span
  | some .loop => do
    let count ← argument keyword
    openBracket keyword
    let body ← block keyword
    return .loop count body keyword.span
  | _ => fail (.unknownCommand keyword)

theorem run_readCommand {v : Vocabulary} (hv : v.Plain) (block : Word → Client (List Command))
    (keyword : Word) :
    (readCommand v block keyword).run = v.readCommand (fun word => (block word).run) keyword := by
  cases hfind : v.find? keyword.text with
  | none => simp only [readCommand, Vocabulary.readCommand, hfind, run]
  | some rule =>
    rw [v.readCommand_of_find _ hfind]
    rcases hv _ _ hfind with rfl | ⟨motion, rfl⟩
    · simp only [readCommand, hfind, Rule.read, run_bind, run_pure, run_argument, run_openBracket]
    · simp only [readCommand, hfind, Rule.read, run_bind, run_pure, run_argument]

def readBody (command : Word → Client Command) (keyword : Word) :
    List Word → List Command → Client (List Command)
  | [], _ => fail (.unterminatedBlock keyword)
  | _ :: bound, before => do
    match ← take with
    | none => fail (.unterminatedBlock keyword)
    | some word =>
      if word.isCloseBracket then
        return before.reverse
      else
        let c ← command word
        readBody command keyword bound (c :: before)

theorem run_readBody (command : Word → Client Command) (keyword : Word) (bound : List Word)
    (before : List Command) :
    (readBody command keyword bound before).run =
      Vocabulary.readBody (fun word => (command word).run) keyword bound before := by
  induction bound generalizing before with
  | nil => rfl
  | cons b bound ih =>
    rw [readBody, run_bind, Vocabulary.readBody]
    refine congrArg (Reader.take? >>= ·) (funext fun word? => ?_)
    cases word? with
    | none => rfl
    | some word =>
      dsimp only
      split
      · rfl
      · rw [run_bind]
        exact congrArg ((command word).run >>= ·) (funext fun c => ih (c :: before))

def readBlock (v : Vocabulary) : Nat → Word → Client (List Command)
  | 0, keyword => block keyword (fail (.unterminatedBlock keyword))
  | room + 1, keyword =>
    block keyword do
      let r ← look
      readBody (readCommand v (readBlock v room)) keyword r.rest []

theorem run_readBlock {v : Vocabulary} (hv : v.Plain) (room : Nat) (keyword : Word) :
    (readBlock v room keyword).run = v.readBlock room keyword := by
  induction room generalizing keyword with
  | zero => rfl
  | succ room ih =>
    have hblock : (fun word => (readBlock v room word).run) = v.readBlock room := funext ih
    have hcommand : (fun word => (readCommand v (readBlock v room) word).run) =
        v.readCommand (v.readBlock room) := by
      funext word
      rw [run_readCommand hv, hblock]
    rw [readBlock, run, run_bind, Vocabulary.readBlock]
    refine congrArg (Reader.block keyword) (congrArg (get >>= ·) (funext fun r => ?_))
    rw [run_readBody, hcommand]

def command (v : Vocabulary) (keyword : Word) : Client Command := do
  let r ← look
  readCommand v (readBlock v (maxDepth - r.depth)) keyword

theorem run_command {v : Vocabulary} (hv : v.Plain) (keyword : Word) :
    (command v keyword).run = v.command keyword := by
  rw [command, run_bind, Vocabulary.command]
  refine congrArg (get >>= ·) (funext fun r => ?_)
  rw [run_readCommand hv, Vocabulary.blockAt]
  exact congrArg (v.readCommand · keyword) (funext (run_readBlock hv _))

end Client

/-- Whatever a client does to the stream of a script, and the reader of commands is one, the words
stay what they are, the position never goes back nor past the number of the words, no more blocks
are open than may be nested, a block is refused when there are that many and only then, and every
call comes back inside as many blocks as it was made in, whether or not it failed. -/
theorem clients_keep_discipline {v : Vocabulary} (hv : v.Plain) (script : String) :
    let words := (Script.words script).toArray
    (∀ keyword s, s.Within words →
      (Client.command v keyword).runOn s = WordStream.call (v.command keyword) s) ∧
      ∀ {α : Type} (client : Client α),
        (let start := WordStream.ofScript script
          let events := client.log start
          let last := finalState (client.runOn start)
          Client.Path start events last ∧ last.depth = start.depth ∧
            (∀ event ∈ events, event.before.Within words ∧ event.after.Within words) ∧
              (start :: events.map Client.Event.after).Pairwise fun s s' =>
                s.position ≤ s'.position) ∧
          ∀ s, s.Within words →
            client.runOn s = WordStream.call client.run s ∧
              ((finalState (client.runOn s)).Within words ∧
                (finalState (client.runOn s)).depth = s.depth) ∧
                ∀ keyword,
                  ((client.block keyword).log s = [⟨.refuse keyword, s, s⟩] ↔
                      s.depth = maxDepth) ∧
                    (client.block keyword).runOn s =
                      if s.depth = maxDepth then .error (.nestedTooDeep keyword) s
                      else Client.outside s.depth
                        (client.runOn ⟨s.words, s.position, s.depth + 1⟩) := by
  intro words
  refine ⟨fun keyword s hs => ?_, fun client => ⟨?_, fun s hs => ?_⟩⟩
  · rw [Client.runOn_eq_call _ hs, Client.run_command hv]
  · intro start events last
    have hstart : start.Within words := ⟨rfl, Nat.zero_le _, Nat.zero_le _⟩
    obtain ⟨hpath, hdepth⟩ := client.path_runOn hstart
    exact ⟨hpath, hdepth, hpath.within hstart, hpath.pairwise_position hstart⟩
  · obtain ⟨hpath, hdepth⟩ := client.path_runOn hs
    exact ⟨client.runOn_eq_call hs, ⟨hpath.within_last hs, hdepth⟩,
      fun keyword => Client.block_law keyword client hs⟩

/-- The command inside the block fails two blocks further in, on a word that is no number, and the
client goes on to take the word behind it. Taking once more at the end does not pass it. -/
theorem clients_keep_discipline_nested :
    let v := Vocabulary.standard
    let start := WordStream.ofScript "REPEAT 2 [ LT [ ]"
    let client : Client (Option Word) := do
      let some keyword ← .take | .fail .missingSize
      .block keyword (.attempt (.command v keyword) fun
        | .ok _ => .fail .missingSize
        | .error _ => do
          let _ ← .take
          .take)
    let last := finalState (client.runOn start)
    v.Plain ∧ (last.position = 6 ∧ last.words.size = 6 ∧ last.depth = 0) ∧
      Client.Path start (client.log start) last := by
  intro v start client last
  have hlast : last.position = 6 ∧ last.words.size = 6 ∧ last.depth = 0 := by decide +kernel
  obtain ⟨-, hclient⟩ := clients_keep_discipline Vocabulary.plain_standard "REPEAT 2 [ LT [ ]"
  obtain ⟨⟨hpath, -⟩, -⟩ := hclient client
  exact ⟨Vocabulary.plain_standard, hlast, hpath⟩

end TurtleGraphics
