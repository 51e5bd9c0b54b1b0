import Reframe.Command.Program
import Reframe.Proofs.Command.FileTree
import Reframe.Proofs.Scan.AllFrames

/-
  What the command that scans a file prints and writes.

  Its loop does with each frame that the reader hands out the
  same: the frame is written, if it is to be, and printed.
  So what it comes to is what the reader hands out.  Frames
  have files of their own, which no other frame disturbs.

  Main declarations:
    * `Action.framePath`
    * `Action.saveAll`
    * `Action.read_saveAll`
    * `Session.withFrames`
    * `Action.run_emitFrames`
    * `ScanArguments.run_eq`
    * `ScanArguments.prints_first_frames`
-/

namespace Reframe

namespace Action

------------------------------------------------------------
-- Files Of Frames
------------------------------------------------------------

/- The name of the file of a frame. -/
def frameName
    (f : ScannedFrame) : String :=
  s!"frame-{f.sequence}.jpg"

/- The path of the file of a frame in a directory. -/
def framePath
    (dir : String)
    (f : ScannedFrame) : FilePath :=
  .ofText (frameFile dir f)

/- The characters of the name of the file of a frame. -/
theorem toList_frameName
    (f : ScannedFrame) :
    (frameName f).toList =
      "frame-".toList ++
        (Nat.toDigits 10 f.sequence ++ ".jpg".toList) := by
  change
    ("frame-" ++ toString f.sequence ++ ".jpg").toList = _
  simp

/- Frames have names for files. -/
theorem isName_frameName
    (f : ScannedFrame) :
    FilePath.IsName (frameName f) := by
  have hText := toList_frameName f
  have hOther :
      ∀ name : String, name.toList.head? ≠ some 'f' →
        frameName f ≠ name := by
    intro name hHead hSame
    rw [← hSame, hText] at hHead
    exact hHead rfl
  refine
    ⟨hOther "" (by decide), hOther "." (by decide),
      hOther ".." (by decide), ?_⟩
  rw [hText, List.mem_append, List.mem_append]
  rintro (hFront | hDigit | hBack)
  · revert hFront
    decide
  · have hIsDigit :=
      Nat.isDigit_of_mem_toDigits (by decide) (by decide)
        hDigit
    revert hIsDigit
    decide
  · revert hBack
    decide

/- Frames with different numbers have different names. -/
theorem sequence_eq_of_frameName
    {f g : ScannedFrame}
    (hSame : frameName f = frameName g) :
    f.sequence = g.sequence := by
  have hDigits := congrArg String.toList hSame
  rw [toList_frameName, toList_frameName,
    List.append_cancel_left_eq,
    List.append_cancel_right_eq] at hDigits
  have hValues := congrArg (Nat.ofDigitChars 10 · 0) hDigits
  simpa using hValues

/- Frames with different numbers have different files. -/
theorem textOf_framePath_ne
    {f g : ScannedFrame}
    (hOther : f.sequence ≠ g.sequence)
    (dir : String) :
    FilePath.textOf (framePath dir f).place ≠
      FilePath.textOf (framePath dir g).place := by
  intro hSame
  have hPlace :
      ∀ h : ScannedFrame,
        (framePath dir h).place =
          (FilePath.ofText dir).place ++ [frameName h] :=
    fun h => FilePath.place_below dir (isName_frameName h)
  rw [hPlace f, hPlace g] at hSame
  exact
    hOther
      (sequence_eq_of_frameName
        (FilePath.textOf_concat_inj (isName_frameName f)
          (isName_frameName g) hSame))

------------------------------------------------------------
-- Saving Frames
------------------------------------------------------------

/-
  The files after a frame was written into a directory, if
  one is given.
-/
def save
    (out : Option String)
    (t : FileTree)
    (f : ScannedFrame) : FileTree :=
  match out with
  | none => t
  | some dir => t.put (framePath dir f).place (.file f.data)

/- The files after frames were written, first one first. -/
def saveAll
    (out : Option String)
    (t : FileTree)
    (fs : List ScannedFrame) : FileTree :=
  fs.foldl (save out) t

/- Without a directory nothing is written. -/
theorem saveAll_none
    (t : FileTree)
    (fs : List ScannedFrame) :
    saveAll none t fs = t := by
  induction fs with
  | nil => rfl
  | cons f fs ih => exact ih

/- Frames can be written into the directory that is given. -/
def CanSave
    (out : Option String)
    (t : FileTree)
    (fs : List ScannedFrame) : Prop :=
  ∀ dir, out = some dir →
    ∀ f ∈ fs, t.IsWritable (framePath dir f)

/- One frame does not keep others from being written. -/
theorem CanSave.save
    {out : Option String}
    {t : FileTree}
    {f : ScannedFrame}
    {fs : List ScannedFrame}
    (hSave : CanSave out t (f :: fs)) :
    CanSave out (save out t f) (f :: fs) := by
  intro dir hOut g hMem
  have hFirst := hSave dir hOut f (by simp)
  rw [hOut]
  exact
    (hSave dir hOut g hMem).put hFirst.not_directory f.data

/- What lies elsewhere is not touched by frames. -/
theorem node?_saveAll_of_ne
    {dir : String}
    {q : List String}
    {fs : List ScannedFrame}
    (hElsewhere :
      ∀ f ∈ fs,
        FilePath.textOf q ≠
          FilePath.textOf (framePath dir f).place)
    (t : FileTree) :
    (saveAll (some dir) t fs).node? q = t.node? q := by
  induction fs generalizing t with
  | nil => rfl
  | cons f fs ih =>
      rw [List.forall_mem_cons] at hElsewhere
      have hRest := ih hElsewhere.2 (save (some dir) t f)
      exact
        hRest.trans
          (FileTree.node?_put_of_ne hElsewhere.1 t _)

/- Frames do not keep a file from being written. -/
theorem isWritable_saveAll
    {dir : String}
    {p : FilePath}
    {t : FileTree}
    {fs : List ScannedFrame}
    (hSave : CanSave (some dir) t fs)
    (hWritable : t.IsWritable p) :
    (saveAll (some dir) t fs).IsWritable p := by
  induction fs generalizing t with
  | nil => exact hWritable
  | cons f fs ih =>
      have hFirst := hSave dir rfl f (by simp)
      exact
        ih (fun dir' hOut g hMem =>
            hSave.save dir' hOut g (by simp [hMem]))
          (hWritable.put hFirst.not_directory f.data)

/- Frames with numbers of their own are where they belong. -/
theorem node?_saveAll
    {dir : String}
    {t : FileTree}
    {fs : List ScannedFrame}
    (hSave : CanSave (some dir) t fs)
    (hApart : (fs.map ScannedFrame.sequence).Nodup)
    {f : ScannedFrame}
    (hMem : f ∈ fs) :
    (saveAll (some dir) t fs).node? (framePath dir f).place =
      some (.file f.data) := by
  induction fs generalizing t with
  | nil => cases hMem
  | cons g fs ih =>
      rw [List.map_cons, List.nodup_cons] at hApart
      rcases List.mem_cons.mp hMem with rfl | hRest
      · have hHere := hSave dir rfl f (by simp)
        have hOthers :
            ∀ g ∈ fs,
              FilePath.textOf (framePath dir f).place ≠
                FilePath.textOf (framePath dir g).place := by
          intro g hOther
          refine textOf_framePath_ne ?_ dir
          intro hNumber
          exact
            hApart.1 (List.mem_map.mpr ⟨g, hOther, hNumber.symm⟩)
        rw [saveAll, List.foldl_cons]
        refine (node?_saveAll_of_ne hOthers _).trans ?_
        apply FileTree.node?_put_of_eq rfl
        intro hAbove
        exact
          hHere.not_directory
            (FileTree.node?_of_isAbove hAbove t)
      · exact
          ih (fun dir' hOut h hIn =>
              hSave.save dir' hOut h (by simp [hIn]))
            hApart.2 hRest

/- Frames with numbers of their own are read back. -/
theorem read_saveAll
    {dir : String}
    {t : FileTree}
    {fs : List ScannedFrame}
    (hSave : CanSave (some dir) t fs)
    (hApart : (fs.map ScannedFrame.sequence).Nodup)
    {f : ScannedFrame}
    (hMem : f ∈ fs) :
    (saveAll (some dir) t fs).read (framePath dir f) =
      .ok f.data :=
  FileTree.read_of_node?
    (isWritable_saveAll hSave (hSave dir rfl f hMem))
    (node?_saveAll hSave hApart hMem)

end Action

------------------------------------------------------------
-- Printing Frames
------------------------------------------------------------

namespace Session

/-
  A session after a frame was written, if it is to be, and
  its bytes were printed.
-/
def withFrame
    (out : Option String)
    (s : Session)
    (f : ScannedFrame) : Session :=
  { s with
    files := Action.save out s.files f
    printed := f.data :: s.printed }

/- A session after several frames. -/
def withFrames
    (out : Option String)
    (s : Session)
    (fs : List ScannedFrame) : Session :=
  fs.foldl (withFrame out) s

/- What is printed comes behind what was printed. -/
theorem output_print
    (s : Session)
    (bs : Bytes) :
    (s.print bs).output = s.output ++ bs := by
  simp [output, print]

/- The bytes of the frames are printed. -/
theorem output_withFrames
    (out : Option String)
    (s : Session)
    (fs : List ScannedFrame) :
    (s.withFrames out fs).output =
      s.output ++ (fs.map ScannedFrame.data).flatten := by
  induction fs generalizing s with
  | nil => simp [withFrames]
  | cons f fs ih =>
      have hRest := ih (s.withFrame out f)
      have hFirst :
          (s.withFrame out f).output = s.output ++ f.data := by
        simp [output, withFrame]
      rw [hFirst] at hRest
      rw [List.map_cons, List.flatten_cons,
        ← List.append_assoc]
      exact hRest

/- The frames are written. -/
theorem files_withFrames
    (out : Option String)
    (s : Session)
    (fs : List ScannedFrame) :
    (s.withFrames out fs).files =
      Action.saveAll out s.files fs := by
  induction fs generalizing s with
  | nil => rfl
  | cons f fs ih => exact ih (s.withFrame out f)

/- The format stays. -/
theorem format_withFrames
    (out : Option String)
    (s : Session)
    (fs : List ScannedFrame) :
    (s.withFrames out fs).format = s.format := by
  induction fs generalizing s with
  | nil => rfl
  | cons f fs ih => exact ih (s.withFrame out f)

end Session

namespace Action

variable {α β : Type}
variable {s t : Session}

/- A part of a command that ends well is followed by more. -/
theorem run_bind
    {x : Action α}
    {a : α}
    (hRun : x.run s = (.ok a, t))
    (next : α → Action β) :
    (x >>= next).run s = (next a).run t := by
  rw [ExceptT.run_bind]
  change (StateT.bind x.run _) s = _
  rw [StateT.bind, hRun]
  rfl

/- A part of a command that fails is the last one. -/
theorem run_bind_error
    {x : Action α}
    {e : Failure}
    (hRun : x.run s = (.error e, t))
    (next : α → Action β) :
    (x >>= next).run s = (.error e, t) := by
  rw [ExceptT.run_bind]
  change (StateT.bind x.run _) s = _
  rw [StateT.bind, hRun]
  rfl

/- The session is looked at. -/
theorem run_get :
    (get : Action Session).run s = (.ok s, s) :=
  rfl

/- A frame that can be written is written. -/
theorem run_saveFrame
    {dir : String}
    {f : ScannedFrame}
    (hWritable : s.files.IsWritable (framePath dir f)) :
    (saveFrame dir f).run s =
      (.ok (),
        { s with files := save (some dir) s.files f }) := by
  have hWrite := hWritable.write_eq f.data
  rw [framePath] at hWrite
  rw [saveFrame, run_bind run_get]
  simp only [hWrite]
  rfl

/- The bytes of a frame are printed. -/
theorem run_print
    (hRaw : s.format = .raw)
    (source : String)
    (f : ScannedFrame) :
    (do
        let s ← get
        printFrame (.ofScanned source s.clock f) :
        Action Unit).run s =
      (.ok (), s.print f.data) := by
  rw [run_bind run_get, printFrame]
  change (Except.ok (), s.print _) = _
  rw [hRaw]
  rfl

/- A frame is written and its bytes are printed. -/
theorem run_emit
    {out : Option String}
    {f : ScannedFrame}
    (hRaw : s.format = .raw)
    (hSave : CanSave out s.files [f])
    (source : String) :
    (emit out source f).run s =
      (.ok (), s.withFrame out f) := by
  cases out with
  | none => exact run_print hRaw source f
  | some dir =>
      have hWritable := hSave dir rfl f (by simp)
      rw [emit.eq_def, run_bind (run_saveFrame hWritable)]
      exact
        run_print
          (s := { s with files := save (some dir) s.files f })
          hRaw source f

/- A summary prints nothing. -/
theorem run_printSummary
    (hRaw : s.format = .raw)
    (title : String)
    (value : Json) :
    (printSummary title value).run s =
      (.ok (), s.print []) := by
  rw [printSummary]
  change (Except.ok (), s.print _) = _
  rw [hRaw]
  rfl

------------------------------------------------------------
-- The Loop
------------------------------------------------------------

/-
  How many frames the loop prints at most after some were
  printed.  It looks only behind a frame whether there are
  enough, so that it is never told to print none.
-/
def remaining
    (count : Option Nat)
    (printed : Nat) : Option Nat :=
  count.map (fun n => max (n - printed) 1)

theorem remaining_ne_zero
    (count : Option Nat)
    (printed : Nat) :
    remaining count printed ≠ some 0 := by
  cases count with
  | none => simp [remaining]
  | some n =>
      simp only [remaining, Option.map_some, ne_eq,
        Option.some.injEq]
      omega

/- There are enough if one more frame was all that was left. -/
theorem isEnough_succ_iff
    (count : Option Nat)
    (printed : Nat) :
    IsEnough count (printed + 1) ↔
      remaining count printed = some 1 := by
  cases count with
  | none => simp [IsEnough, remaining]
  | some n =>
      simp only [IsEnough, Option.mem_def, remaining,
        Option.map_some, Option.some.injEq, exists_eq_left']
      omega

/- Else there is one frame less to be printed. -/
theorem remaining_succ
    {count : Option Nat}
    {printed : Nat}
    (hMore : ¬ IsEnough count (printed + 1)) :
    remaining count (printed + 1) =
      (remaining count printed).map Nat.pred := by
  rw [isEnough_succ_iff] at hMore
  cases count with
  | none => rfl
  | some n =>
      simp only [remaining, Option.map_some,
        Option.some.injEq, Nat.pred_eq_sub_one] at hMore ⊢
      omega

/- The loop makes a call of the reader and goes on from it. -/
theorem emitFrames_eq
    (out : Option String)
    (input : ScanInput)
    (count : Option Nat)
    (printed : Nat)
    (r : FrameReader) :
    emitFrames out input count printed r =
      (match r.read with
      | (.error e, _) => throw (.ofFrame "scan failed" e)
      | (.ok none, after) => pure after
      | (.ok (some f), after) => do
          emit out input.label f
          let s ← get
          if IsEnough count (printed + 1) then pure after
          else if Overwrites s.files out input f then
            emitFrames out input count (printed + 1)
              after.cutOff
          else
            emitFrames out input count (printed + 1)
              after) := by
  rw [emitFrames]
  split
  · rename_i hRead
    rw [hRead]
  · rename_i hRead
    rw [hRead]
  · rename_i hRead
    rw [hRead]

/- A frame with a place of its own is not written over. -/
theorem not_overwrites
    {out : Option String}
    {input : ScanInput}
    {t : FileTree}
    {f : ScannedFrame}
    {fs : List ScannedFrame}
    (hSave : CanSave out t fs)
    (hMem : f ∈ fs)
    (hApart : ∀ dir, out = some dir →
      input.place ≠ some (framePath dir f).place) :
    ¬ Overwrites t out input f := by
  unfold Overwrites
  split
  · rename_i dir place hPlace
    have hWritable := hSave dir rfl f hMem
    have hResolve := hWritable.resolve_eq
    rw [framePath] at hResolve
    rw [hResolve]
    intro hSame
    cases hSame
    exact hApart dir rfl hPlace
  · exact not_false

/-
  The first frame that is handed out is written and printed.
  Then the loop ends, or goes on with the frames behind it.
-/
theorem run_emitFrames_of_some
    {out : Option String}
    {input : ScanInput}
    {count : Option Nat}
    {printed : Nat}
    {r after : FrameReader}
    {f : ScannedFrame}
    (hRead : r.read = (.ok (some f), after))
    (hRaw : s.format = .raw)
    (hSave : CanSave out s.files [f])
    (hApart : ∀ dir, out = some dir →
      input.place ≠ some (framePath dir f).place) :
    (emitFrames out input count printed r).run s =
      if IsEnough count (printed + 1) then
        (.ok after, s.withFrame out f)
      else
        (emitFrames out input count (printed + 1) after).run
          (s.withFrame out f) := by
  have hKept :
      ¬ Overwrites (s.withFrame out f).files out input f :=
    not_overwrites hSave.save (by simp) hApart
  rw [emitFrames_eq, hRead]
  simp only [run_bind (run_emit hRaw hSave input.label),
    run_bind run_get, if_neg hKept]
  split
  · rfl
  · rfl

/-
  All frames that are handed out are written and printed, in
  order.  A failure of the reader ends the command.
-/
theorem run_emitFrames
    {out : Option String}
    {input : ScanInput}
    {count : Option Nat}
    {printed : Nat}
    {r : FrameReader}
    {run : ReadRun}
    (hGives : r.Gives (remaining count printed) run)
    (hRaw : s.format = .raw)
    (hSave : CanSave out s.files run.frames)
    (hApart : ∀ dir, out = some dir → ∀ f ∈ run.frames,
      input.place ≠ some (framePath dir f).place) :
    (emitFrames out input count printed r).run s =
      (match run.failure with
        | some e => .error (.ofFrame "scan failed" e)
        | none => .ok run.after,
      s.withFrames out run.frames) := by
  generalize hLeft : remaining count printed = limit
    at hGives
  induction hGives generalizing s printed with
  | failed hRead =>
      rw [emitFrames_eq, hRead]
      rfl
  | ended hRead =>
      rw [emitFrames_eq, hRead]
      rfl
  | @last r after f hRead =>
      have hEnough :=
        (isEnough_succ_iff count printed).mpr hLeft
      rw [run_emitFrames_of_some hRead hRaw hSave
        (fun dir hOut => hApart dir hOut f (by simp)),
        if_pos hEnough]
      rfl
  | @further r after limit f run hRead hLimit hRest ih =>
      have hFirst : CanSave out s.files [f] := by
        intro dir hOut g hMem
        rw [List.mem_singleton] at hMem
        exact hSave dir hOut g (by simp [hMem])
      have hMore : ¬ IsEnough count (printed + 1) := by
        rw [isEnough_succ_iff, hLeft]
        exact fun hOne => Nat.lt_irrefl 1 (hLimit 1 hOne)
      rw [run_emitFrames_of_some hRead hRaw hFirst
        (fun dir hOut => hApart dir hOut f (by simp)),
        if_neg hMore]
      apply ih
      · exact hRaw
      · intro dir hOut g hMem
        exact hSave.save dir hOut g (by simp [hMem])
      · intro dir hOut g hMem
        exact hApart dir hOut g (by simp [hMem])
      · rw [remaining_succ hMore, hLeft]

end Action

------------------------------------------------------------
-- The Command
------------------------------------------------------------

namespace ScanArguments

/-
  These bytes are what there is to scan, from standard input
  or from a file.
-/
inductive Reads
    (a : ScanArguments)
    (s : Session)
    (content : Bytes) : Prop where
| standardInput
    (hName : a.input = "-")
    (hContent : s.input = content)
| file
    (hName : a.input ≠ "-")
    (place : List String)
    (hOpen :
      s.files.open? (.ofText a.input) =
        .ok (place, .file content))

/-
  Frames have room in a directory: it can be created, their
  files can be written there, and none of these is the file
  that is scanned.
-/
structure HasRoom
    (a : ScanArguments)
    (s : Session)
    (dir : String)
    (fs : List ScannedFrame) : Prop where
  created :
    (s.files.createDirectories (.ofText dir)).1 = .ok ()
  writes :
    let t := (s.files.createDirectories (.ofText dir)).2
    ∀ f ∈ fs,
      (t.write (Action.framePath dir f) f.data).isOk = true
  apart :
    a.input = "-" ∨
      ∀ f ∈ fs,
        (Action.framePath dir f).place ≠
          (FilePath.ofText a.input).place

/- The session after a directory is created, if any is. -/
def withOut
    (a : ScanArguments)
    (s : Session) : Session :=
  match a.out with
  | none => s
  | some dir =>
      { s with
        files :=
          (s.files.createDirectories (.ofText dir)).2 }

/- Further directories leave what there is to scan. -/
theorem Reads.withOut
    {a : ScanArguments}
    {s : Session}
    {content : Bytes}
    (hReads : a.Reads s content) :
    a.Reads (a.withOut s) content := by
  unfold ScanArguments.withOut
  split
  · exact hReads
  · rename_i dir _
    cases hReads with
    | standardInput hName hContent =>
        exact .standardInput hName hContent
    | file hName place hOpen =>
        have hAdds :=
          s.files.addsDirectories_createDirectories
            (.ofText dir)
        exact .file hName place (hAdds.open?_eq hOpen)

/- Standard input is read piece by piece. -/
theorem exists_chunks_standardInput
    (chunkSize : Nat)
    (content : Bytes) :
    ∃ chunks : List Bytes, chunks.flatten = content ∧
      standardInput chunkSize content = chunks.map .data := by
  unfold standardInput
  split
  · exact ⟨[content], by simp, rfl⟩
  · have hCapacity : 0 < inputBufferSize := by decide
    have hPieces := ByteSource.pieces_spec hCapacity content
    exact ⟨_, hPieces.1, rfl⟩

/- What there is to scan is opened. -/
theorem run_openInput
    {a : ScanArguments}
    {s : Session}
    {content : Bytes}
    (hReads : a.Reads s content) :
    ∃ (input : ScanInput) (chunks : List Bytes),
      a.openInput.run s = (.ok input, s) ∧
        chunks.flatten = content ∧
        input.source = chunks.map .data ∧
        ∀ place, input.place = some place →
          a.input ≠ "-" ∧
            place = (FilePath.ofText a.input).place := by
  cases hReads with
  | standardInput hName hContent =>
      rcases exists_chunks_standardInput a.chunkSize content
        with ⟨chunks, hChunks, hSource⟩
      refine
        ⟨⟨"stdin", none, standardInput a.chunkSize content⟩,
          chunks, ?_, hChunks, hSource, ?_⟩
      · rw [openInput, Action.run_bind Action.run_get,
          if_pos hName, hContent]
        rfl
      · intro place hNone
        cases hNone
  | file hName place hOpen =>
      refine
        ⟨⟨a.input, some place, [.data content]⟩, [content],
          ?_, by simp, rfl, ?_⟩
      · rw [openInput, Action.run_bind Action.run_get,
          if_neg hName]
        simp only [hOpen]
        rfl
      · rintro _ ⟨⟩
        exact ⟨hName, FileTree.eq_of_open? hOpen⟩

/- The command once the directory is there. -/
def scanInput
    (a : ScanArguments) : Action Unit := do
  let input ← a.openInput
  let reader :=
    FrameReader.ofSource input.source
      (a.maxFrameSize.getD defaultFrameLimit) a.chunkSize
  if ¬ reader.HasBuffer then
    throw .bufferSize
  let after ←
    Action.emitFrames a.out input a.count 0 reader
  Action.printSummary "stats" after.stats.json

/- The directory is created before anything is scanned. -/
theorem run_eq_scanInput
    {a : ScanArguments}
    (hChunk : 0 < a.chunkSize) :
    a.run =
      match a.out with
      | none => a.scanInput
      | some dir => (do
          Action.createOut dir
          a.scanInput) := by
  have hSize : ¬ a.chunkSize = 0 := by omega
  unfold run
  simp only [if_neg hSize]
  rfl

/- A directory that can be created is created. -/
theorem run_createOut
    {s : Session}
    {dir : String}
    (hCreated :
      (s.files.createDirectories (.ofText dir)).1 = .ok ()) :
    (Action.createOut dir).run s =
      (.ok (),
        { s with
          files :=
            (s.files.createDirectories (.ofText dir)).2 }) := by
  rw [Action.createOut, Action.run_bind Action.run_get]
  cases hResult : s.files.createDirectories (.ofText dir) with
  | mk result files =>
      rw [hResult] at hCreated
      simp only at hCreated
      subst hCreated
      rfl

/- The directory is created before anything is scanned. -/
theorem run_of_created
    {a : ScanArguments}
    {s : Session}
    (hChunk : 0 < a.chunkSize)
    (hCreated : ∀ dir, a.out = some dir →
      (s.files.createDirectories (.ofText dir)).1 = .ok ()) :
    a.run.run s = a.scanInput.run (a.withOut s) := by
  rw [run_eq_scanInput hChunk, ScanArguments.withOut]
  cases hOut : a.out with
  | none => rfl
  | some dir =>
      exact
        Action.run_bind (run_createOut (hCreated dir hOut)) _

/- Creating the directory does not change the format. -/
theorem format_withOut
    (a : ScanArguments)
    (s : Session) :
    (a.withOut s).format = s.format := by
  unfold withOut
  split
  · rfl
  · rfl

/- Creating the directory prints nothing. -/
theorem output_withOut
    (a : ScanArguments)
    (s : Session) :
    (a.withOut s).output = s.output := by
  unfold withOut
  split
  · rfl
  · rfl

/- The frames that there is room for can be saved. -/
theorem HasRoom.canSave
    {a : ScanArguments}
    {s : Session}
    {fs : List ScannedFrame}
    (hRoom : ∀ dir, a.out = some dir → a.HasRoom s dir fs) :
    Action.CanSave a.out (a.withOut s).files fs := by
  intro dir hOut f hMem
  unfold ScanArguments.withOut
  rw [hOut]
  exact
    FileTree.isWritable_of_write
      ((hRoom dir hOut).writes f hMem)

/-
  What the command comes to that scans bytes: the frames
  that a reader hands out of them, cut into chunks in some
  way, are written and printed.
-/
theorem run_eq
    {a : ScanArguments}
    {s : Session}
    {content : Bytes}
    (hRaw : s.format = .raw)
    (hChunk : 0 < a.chunkSize)
    (hBuffer : Bytes.FitBuffer a.chunkSize)
    (hReads : a.Reads s content) :
    ∃ chunks : List Bytes, chunks.flatten = content ∧
      let r :=
        FrameReader.ofSource (chunks.map .data)
          (a.maxFrameSize.getD defaultFrameLimit) a.chunkSize
      let run := r.readMost (Action.remaining a.count 0)
      (∀ dir, a.out = some dir → a.HasRoom s dir run.frames) →
        a.run.run s =
          (.ok (),
            ((a.withOut s).withFrames a.out run.frames).print
              []) := by
  rcases run_openInput hReads.withOut with
    ⟨input, chunks, hOpen, hChunks, hSource, hPlace⟩
  refine ⟨chunks, hChunks, ?_⟩
  intro r run hRoom
  have hGives :=
    r.gives_readMost (Action.remaining_ne_zero a.count 0)
  have hFailure : run.failure = none := by
    rcases FrameReader.exists_feeds_of_data
        (a.maxFrameSize.getD defaultFrameLimit) a.chunkSize
        chunks with
      ⟨_, _, _, hWhole, _⟩
    exact hGives.eq_take.2 hWhole
  have hApart :
      ∀ dir, a.out = some dir → ∀ f ∈ run.frames,
        input.place ≠ some (Action.framePath dir f).place := by
    intro dir hOut f hMem hSame
    rcases hPlace _ hSame with ⟨hName, hSamePlace⟩
    rcases (hRoom dir hOut).apart with hInput | hOther
    · exact hName hInput
    · exact hOther f hMem hSamePlace
  have hLoop :=
    Action.run_emitFrames hGives
      ((a.format_withOut s).trans hRaw)
      (HasRoom.canSave hRoom) hApart
  rw [hFailure] at hLoop
  have hHas : r.HasBuffer := by
    change Bytes.FitBuffer (max a.chunkSize 1)
    rwa [Nat.max_eq_left hChunk]
  rw [run_of_created hChunk
      (fun dir hOut => (hRoom dir hOut).created),
    scanInput, Action.run_bind hOpen, hSource]
  simp only [not_true_eq_false, if_false, hHas, r]
  rw [Action.run_bind hLoop]
  exact
    Action.run_printSummary
      ((Session.format_withFrames _ _ _).trans
        ((a.format_withOut s).trans hRaw)) _ _

------------------------------------------------------------
-- The Program
------------------------------------------------------------

/-
  The frames that are to be printed of bytes: all, or as many
  as were asked for, but the first one in any case.
-/
def due
    (a : ScanArguments)
    (content : Bytes) : List ScannedFrame :=
  let frames := Marked.frames content
  let n :=
    match a.count with
    | none => frames.length
    | some n => min (max n 1) frames.length
  numbered 0 (frames.take n)

/-
  The frames that are to be printed are handed out, if none
  is too large.
-/
theorem frames_readMost
    {a : ScanArguments}
    {chunks : List Bytes}
    (hFits :
      ∀ frame ∈ Marked.frames chunks.flatten,
        frame.length ≤ a.maxFrameSize.getD defaultFrameLimit) :
    let r :=
      FrameReader.ofSource (chunks.map .data)
        (a.maxFrameSize.getD defaultFrameLimit) a.chunkSize
    (r.readMost (Action.remaining a.count 0)).frames =
      a.due chunks.flatten := by
  intro r
  have hGives :=
    r.gives_readMost (Action.remaining_ne_zero a.count 0)
  rw [← ByteSource.received_of_data chunks] at hFits
  have hAll :=
    FrameReader.frames_readAll_ofSource a.chunkSize hFits
  rw [ByteSource.received_of_data] at hAll
  rw [hGives.eq_take.1, hAll, take_numbered, due]
  congr 1
  cases a.count with
  | none => simp [Action.remaining, numbered]
  | some n =>
      simp [Action.remaining, List.take_eq_take_iff]

/- How the program ends that scans bytes in raw form. -/
theorem run_program
    {s : Session}
    {arguments : List String}
    {a : ScanArguments}
    {content : Bytes}
    (hArguments :
      CommandLine.read arguments = .run ⟨some .raw, .scan a⟩)
    (hChunk : 0 < a.chunkSize)
    (hBuffer : Bytes.FitBuffer a.chunkSize)
    (hReads : a.Reads s content)
    (hFits :
      ∀ frame ∈ Marked.frames content,
        frame.length ≤ a.maxFrameSize.getD defaultFrameLimit)
    (hRoom :
      ∀ dir, a.out = some dir →
        a.HasRoom s dir (a.due content)) :
    Program.run s arguments =
      ⟨ExitCode.success, none,
        ((a.withOut { s with format := .raw }).withFrames
          a.out (a.due content)).print []⟩ := by
  have hReads' :
      a.Reads { s with format := .raw } content := by
    cases hReads with
    | standardInput hName hContent =>
        exact .standardInput hName hContent
    | file hName place hOpen => exact .file hName place hOpen
  rcases run_eq rfl hChunk hBuffer hReads' with
    ⟨chunks, rfl, hRun⟩
  have hDue := a.frames_readMost hFits
  simp only [hDue] at hRun
  have hEnd :=
    hRun
      (fun dir hOut =>
        { created := (hRoom dir hOut).created
          writes := (hRoom dir hOut).writes
          apart := (hRoom dir hOut).apart })
  rw [Program.run, hArguments]
  change
    Program.outcomeOf (a.run.run { s with format := .raw }) = _
  rw [hEnd]
  rfl

/-
  The program ends well, and in raw form prints the first
  frames of what it scans, as many as were asked for, but
  the first one in any case.  With a directory, each of them
  is in a file of its own, and no other file is made, changed
  or lost.
-/
theorem prints_first_frames
    (s : Session)
    (arguments : List String)
    (a : ScanArguments)
    (content : Bytes)
    (hArguments :
      CommandLine.read arguments = .run ⟨some .raw, .scan a⟩)
    (hChunk : 0 < a.chunkSize)
    (hBuffer : Bytes.FitBuffer a.chunkSize)
    (hReads : a.Reads s content)
    (hFits :
      ∀ frame ∈ Marked.frames content,
        frame.length ≤ a.maxFrameSize.getD defaultFrameLimit)
    (hRoom :
      ∀ dir, a.out = some dir →
        a.HasRoom s dir (a.due content)) :
    let outcome := Program.run s arguments
    let files := outcome.session.files
    let fs := a.due content
    (outcome.code = ExitCode.success ∧
        outcome.complaint = none) ∧
      outcome.session.output =
        s.output ++ (fs.map ScannedFrame.data).flatten ∧
      (a.out = none → files = s.files) ∧
      ∀ dir, a.out = some dir →
        (∀ f ∈ fs,
          files.read (Action.framePath dir f) =
            .ok f.data) ∧
        ∀ place,
          (∀ f ∈ fs,
            FilePath.textOf place ≠
              FilePath.textOf (Action.framePath dir f).place) →
          ∀ bytes,
            files.node? place = some (.file bytes) ↔
              s.files.node? place = some (.file bytes) := by
  intro outcome files fs
  have hRun :=
    run_program hArguments hChunk hBuffer hReads hFits hRoom
  have hFiles :
      files =
        Action.saveAll a.out
          (a.withOut { s with format := .raw }).files fs := by
    simp only [files, outcome, hRun]
    exact Session.files_withFrames a.out _ fs
  refine ⟨?_, ?_, ?_, ?_⟩
  · simp only [outcome, hRun]
    exact ⟨trivial, trivial⟩
  · simp only [outcome, hRun, Session.output_print,
      Session.output_withFrames, output_withOut,
      List.append_nil]
    rfl
  · intro hOut
    rw [hFiles, ScanArguments.withOut, hOut]
    exact Action.saveAll_none _ fs
  · intro dir hOut
    have hSave := HasRoom.canSave hRoom
    rw [ScanArguments.withOut, hOut] at hSave hFiles
    refine ⟨?_, ?_⟩
    · intro f hMem
      rw [hFiles]
      apply Action.read_saveAll hSave _ hMem
      simp only [due, map_sequence_numbered]
      exact List.nodup_range'
    · intro place hElsewhere bytes
      rw [hFiles, Action.node?_saveAll_of_ne hElsewhere]
      have hAdds :=
        s.files.addsDirectories_createDirectories
          (.ofText dir)
      exact hAdds.file_iff place bytes

/-
  Two of three frames are asked for, and are written too.
  The bytes are read in chunks that cut through the markers,
  and there is an open frame at their end.
-/
theorem prints_first_frames_of_file :
    let frame (n : UInt8) : Bytes :=
      [0xFF, 0xD8, n, 0xFF, 0xD9]
    let content : Bytes :=
      7 :: frame 1 ++ frame 2 ++ frame 3 ++ [0xFF, 0xD8, 4]
    let s : Session :=
      { files := .ofFiles [("tape.bin", content)] }
    let outcome :=
      Program.run s
        ["scan", "--format", "raw", "--chunk-size", "3",
          "--count", "2", "--out", "frames", "tape.bin"]
    let files := outcome.session.files
    outcome.code = 0 ∧
      outcome.session.output = frame 1 ++ frame 2 ∧
      files.read (.ofText "frames/frame-0.jpg") =
        .ok (frame 1) ∧
      files.read (.ofText "frames/frame-1.jpg") =
        .ok (frame 2) := by
  intro frame content s outcome files
  let arguments :=
    ["scan", "--format", "raw", "--chunk-size", "3",
      "--count", "2", "--out", "frames", "tape.bin"]
  let a : ScanArguments :=
    { input := "tape.bin"
      chunkSize := 3
      count := some 2
      out := some "frames" }
  have hArguments :
      CommandLine.read arguments =
        .run ⟨some .raw, .scan a⟩ := by
    decide +kernel
  have hReads : a.Reads s content :=
    .file (by decide) ["tape.bin"] (by decide +kernel)
  have hDue :
      a.due content = [⟨0, frame 1⟩, ⟨1, frame 2⟩] := by
    decide +kernel
  have hRoom :
      ∀ dir, a.out = some dir →
        a.HasRoom s dir (a.due content) := by
    rintro dir ⟨⟩
    rw [hDue]
    constructor
    · decide +kernel
    · decide +kernel
    · decide +kernel
  have hFits :
      ∀ frame ∈ Marked.frames content,
        frame.length ≤ a.maxFrameSize.getD defaultFrameLimit := by
    decide +kernel
  have hPaths :
      Action.framePath "frames" ⟨0, frame 1⟩ =
          .ofText "frames/frame-0.jpg" ∧
        Action.framePath "frames" ⟨1, frame 2⟩ =
          .ofText "frames/frame-1.jpg" := by
    decide +kernel
  rcases prints_first_frames s arguments a content
      hArguments (by decide) (by decide) hReads hFits hRoom
    with ⟨⟨hCode, _⟩, hOutput, _, hFiles⟩
  have hSaved := (hFiles "frames" rfl).1
  rw [hDue, List.forall_mem_cons, hPaths.1,
    List.forall_mem_singleton, hPaths.2] at hSaved
  rw [hDue] at hOutput
  exact ⟨hCode, hOutput, hSaved⟩

/- The first frame is printed even when none is asked for. -/
theorem not_prints_as_many_as_asked :
    ¬ ∀ (s : Session) (arguments : List String)
        (a : ScanArguments) (content : Bytes),
        CommandLine.read arguments =
            .run ⟨some .raw, .scan a⟩ →
          0 < a.chunkSize →
          Bytes.FitBuffer a.chunkSize →
          a.Reads s content →
          (∀ frame ∈ Marked.frames content,
            frame.length ≤
              a.maxFrameSize.getD defaultFrameLimit) →
          a.out = none →
          let frames := Marked.frames content
          (Program.run s arguments).session.output =
            s.output ++
              (frames.take
                (a.count.getD frames.length)).flatten := by
  intro hAll
  let content : Bytes := [0xFF, 0xD8, 1, 0xFF, 0xD9]
  let s : Session := { files := .ofFiles [("s.bin", content)] }
  let a : ScanArguments :=
    { input := "s.bin", count := some 0 }
  have hArguments :
      CommandLine.read
          ["scan", "--format", "raw", "--count", "0",
            "s.bin"] =
        .run ⟨some .raw, .scan a⟩ := by
    decide +kernel
  have hReads : a.Reads s content :=
    .file (by decide) ["s.bin"] (by decide +kernel)
  have hFits :
      ∀ frame ∈ Marked.frames content,
        frame.length ≤ defaultFrameLimit := by
    decide +kernel
  have hNone :=
    hAll s _ a content hArguments (by decide) (by decide)
      hReads hFits rfl
  have hRun :=
    run_program (s := s) hArguments (by decide) (by decide)
      hReads hFits (fun dir hOut => by cases hOut)
  simp only [hRun, Session.output_print,
    Session.output_withFrames, output_withOut] at hNone
  have hDue : a.due content = [⟨0, content⟩] := by
    decide +kernel
  rw [hDue] at hNone
  cases hNone

end ScanArguments

end Reframe
