import Reframe.Proofs.Image.Decoder
import Reframe.Proofs.Puller.Lifetime
import Reframe.Proofs.Scan.AllFrames

/-
  How a puller is asked for frames and for pictures in turn.

  Each request consumes frames off the front of the stream.
  A request for a picture steps the decoder on each of them,
  and stops at the first one that gives a picture.  So the
  state of the decoder is folded over the frames that such
  requests consume, and over no others.

  Main declarations:
    * `Decoder.Finds`
    * `Puller.toCome`
    * `Puller.Request`
    * `Puller.consumption`
    * `Puller.serves_nextFrame`
    * `Puller.shows_nextImage`
    * `Puller.pictures_fold_decoder`
-/

namespace Reframe

------------------------------------------------------------
-- The First Picture
------------------------------------------------------------

namespace Decoder

variable {σ : Type}

/- The decoder after the bytes of frames. -/
def afterFrames
    (d : Decoder σ)
    (fs : List ScannedFrame) : Decoder σ :=
  d.after (fs.map ScannedFrame.data)

/- The pictures of the bytes of frames. -/
def imagesOf
    (d : Decoder σ)
    (fs : List ScannedFrame) : List Image :=
  d.images (fs.map ScannedFrame.data)

/-
  What a decoder finds that is stepped on these frames: the
  last one is the first one that gives pictures, and the
  last of these is found, or none of the frames gives any.
  Those in front are refused or give none.
-/
inductive Finds
    (d : Decoder σ) :
    List ScannedFrame → Option (ScannedFrame × Image) →
      Prop where
| nothing
    {passed : List ScannedFrame}
    (hPassed : d.imagesOf passed = []) :
    Finds d passed none
| picture
    {passed : List ScannedFrame}
    {f : ScannedFrame}
    {images : List Image}
    {image : Image}
    (hPassed : d.imagesOf passed = [])
    (hDecoded :
      ((d.afterFrames passed).decode f.data).1 = .ok images)
    (hLast : images.getLast? = some image) :
    Finds d (passed ++ [f]) (some (f, image))

/-
  The first of the frames that gives pictures, with its last
  one, when the decoder is stepped on one after another.
-/
def firstPicture?
    (d : Decoder σ) :
    List ScannedFrame → Option (ScannedFrame × Image)
| [] => none
| f :: fs =>
    match (pictures (d.decode f.data).1).getLast? with
    | some image => some (f, image)
    | none => (d.decode f.data).2.firstPicture? fs

/- The decoder is stepped on the first frame first. -/
theorem afterFrames_cons
    (d : Decoder σ)
    (f : ScannedFrame)
    (fs : List ScannedFrame) :
    d.afterFrames (f :: fs) =
      (d.decode f.data).2.afterFrames fs :=
  rfl

/- The pictures of the first frame come first. -/
theorem imagesOf_cons
    (d : Decoder σ)
    (f : ScannedFrame)
    (fs : List ScannedFrame) :
    d.imagesOf (f :: fs) =
      pictures (d.decode f.data).1 ++
        (d.decode f.data).2.imagesOf fs :=
  rfl

/- A frame without a picture is passed over. -/
theorem Finds.behind
    {d : Decoder σ}
    {f : ScannedFrame}
    {fs : List ScannedFrame}
    {found : Option (ScannedFrame × Image)}
    (hFirst : pictures (d.decode f.data).1 = [])
    (hFinds : (d.decode f.data).2.Finds fs found) :
    d.Finds (f :: fs) found := by
  cases hFinds with
  | nothing hPassed =>
      apply Finds.nothing
      rw [imagesOf_cons, hFirst, hPassed]
      rfl
  | @picture passed g images image hPassed hDecoded hLast =>
      have hBoth : d.imagesOf (f :: passed) = [] := by
        rw [imagesOf_cons, hFirst, hPassed]
        rfl
      exact .picture hBoth hDecoded hLast

/- Frames without a picture in front make no difference. -/
theorem firstPicture?_append
    {d : Decoder σ}
    {passed : List ScannedFrame}
    (hPassed : d.imagesOf passed = [])
    (fs : List ScannedFrame) :
    d.firstPicture? (passed ++ fs) =
      (d.afterFrames passed).firstPicture? fs := by
  induction passed generalizing d with
  | nil => rfl
  | cons f passed ih =>
      rw [imagesOf_cons, List.append_eq_nil_iff] at hPassed
      rw [List.cons_append, firstPicture?, hPassed.1,
        afterFrames_cons]
      exact ih hPassed.2

/-
  What is found is the first picture of all frames, if
  nothing is found only when there are no further ones.
-/
theorem Finds.eq_firstPicture?
    {d : Decoder σ}
    {fs rest : List ScannedFrame}
    {found : Option (ScannedFrame × Image)}
    (hFinds : d.Finds fs found)
    (hAll : found = none → rest = []) :
    found = d.firstPicture? (fs ++ rest) := by
  cases hFinds with
  | nothing hPassed =>
      rw [hAll rfl, firstPicture?_append hPassed]
      rfl
  | picture hPassed hDecoded hLast =>
      rw [List.append_assoc, firstPicture?_append hPassed,
        List.singleton_append, firstPicture?, hDecoded,
        pictures, hLast]

end Decoder

namespace Puller

variable {σ : Type}

------------------------------------------------------------
-- Requests
------------------------------------------------------------

/-
  The frames that are still to come: all that the reader
  would hand out, unless the puller is closed.
-/
def toCome
    (p : Puller σ) : List ScannedFrame :=
  if p.closed then [] else p.reader.readAll.frames

/- What may be asked for in turn. -/
inductive Request where
| frame
| picture
deriving DecidableEq, Repr

/- The puller after a request. -/
def ask
    (p : Puller σ) : Request → Puller σ
| .frame => p.nextFrame.2
| .picture => p.nextImage.2

/- The puller after requests. -/
def asked
    (p : Puller σ)
    (rs : List Request) : Puller σ :=
  rs.foldl ask p

/-
  The frames that a request consumes: those to come that are
  not to come any more after it.
-/
def consumedBy
    (p : Puller σ)
    (r : Request) : List ScannedFrame :=
  p.toCome.take
    (p.toCome.length - (p.ask r).toCome.length)

/- The requests of a run, and what each of them consumes. -/
def consumption
    (p : Puller σ) :
    List Request → List (Request × List ScannedFrame)
| [] => []
| r :: rs =>
    (r, p.consumedBy r) :: (p.ask r).consumption rs

/- All frames that were consumed. -/
def consumed
    (log : List (Request × List ScannedFrame)) :
    List ScannedFrame :=
  log.flatMap Prod.snd

/- The frames that requests for pictures consumed. -/
def decoded
    (log : List (Request × List ScannedFrame)) :
    List ScannedFrame :=
  consumed (log.filter (fun x => x.1 = .picture))

/- The puller after requests and one more. -/
theorem asked_concat
    (p : Puller σ)
    (rs : List Request)
    (r : Request) :
    p.asked (rs ++ [r]) = (p.asked rs).ask r := by
  simp [asked]

/- One more request consumes frames behind the others. -/
theorem consumption_concat
    (p : Puller σ)
    (rs : List Request)
    (r : Request) :
    p.consumption (rs ++ [r]) =
      p.consumption rs ++
        [(r, (p.asked rs).consumedBy r)] := by
  induction rs generalizing p with
  | nil => rfl
  | cons r' rs ih =>
      rw [List.cons_append, consumption, consumption, ih]
      rfl

/- What is gone from the front was consumed. -/
theorem consumedBy_eq
    {p : Puller σ}
    {r : Request}
    {fs : List ScannedFrame}
    (hToCome : p.toCome = fs ++ (p.ask r).toCome) :
    p.consumedBy r = fs := by
  rw [consumedBy, hToCome, List.length_append,
    Nat.add_sub_cancel, List.take_left]

------------------------------------------------------------
-- One Request
------------------------------------------------------------

/-
  A call for a frame consumes the frame that it hands out.
  When there is none, the puller is closed.  The decoder has
  no part in it.
-/
structure Serves
    (p : Puller σ)
    (found : Option ScannedFrame)
    (after : Puller σ) : Prop where
  toCome_eq : p.toCome = found.toList ++ after.toCome
  decoder_eq : after.decoder = p.decoder
  closed_of_none : found = none → after.closed = true

/- Nothing is to come of a closed puller. -/
theorem toCome_of_closed
    {p : Puller σ}
    (hClosed : p.closed = true) :
    p.toCome = [] :=
  if_pos hClosed

/- A puller that is closed is closed, and decodes no more. -/
theorem closed_close
    (p : Puller σ) :
    p.close.closed = true ∧ p.close.decoder = p.decoder := by
  unfold close
  split
  · rename_i hClosed
    exact ⟨hClosed, rfl⟩
  · exact ⟨rfl, rfl⟩

/- Every call for a frame is served. -/
theorem serves_nextFrame
    (p : Puller σ) :
    p.Serves p.nextFrame.1 p.nextFrame.2 := by
  cases hClosed : p.closed with
  | true =>
      rw [nextFrame_of_closed hClosed]
      exact ⟨rfl, rfl, fun _ => hClosed⟩
  | false =>
      have hToCome : p.toCome = p.reader.readAll.frames := by
        simp [toCome, hClosed]
      rw [FrameReader.readAll_eq] at hToCome
      cases hRead : p.reader.read with
      | mk result reader =>
          rw [hRead] at hToCome
          cases hFound : result.frame? with
          | none =>
              rcases closed_close
                  ({ p with reader := reader } : Puller σ)
                with ⟨hOver, hDecoder⟩
              rw [nextFrame_of_frame?_none hClosed hRead
                hFound]
              refine ⟨?_, hDecoder, fun _ => hOver⟩
              rw [toCome_of_closed hOver, hToCome]
              cases result with
              | error e => rfl
              | ok found =>
                  cases found with
                  | none => rfl
                  | some f => cases hFound
          | some f =>
              have hResult : result = .ok (some f) := by
                cases result with
                | error e => cases hFound
                | ok found => exact congrArg _ hFound
              subst hResult
              have hNext :
                  p.nextFrame =
                    (some f, { p with reader := reader }) := by
                simp [nextFrame, hClosed, hRead]
              rw [hNext]
              refine ⟨?_, rfl, fun hNone => by cases hNone⟩
              rw [hToCome]
              simp [toCome, hClosed]

/-
  A call for a picture consumes frames up to the first one
  that gives a picture, and steps the decoder on all of
  them.  When no frame that is to come gives one, all are
  consumed, and the puller is closed.
-/
structure Shows
    (p : Puller σ)
    (passed : List ScannedFrame)
    (found : Option (ScannedFrame × Image))
    (after : Puller σ) : Prop where
  toCome_eq : p.toCome = passed ++ after.toCome
  finds : p.decoder.Finds passed found
  decoder_eq : after.decoder = p.decoder.afterFrames passed
  closed_of_none : found = none → after.closed = true

/- A frame without a picture is consumed in front. -/
theorem Shows.behind
    {p q after : Puller σ}
    {f : ScannedFrame}
    {passed : List ScannedFrame}
    {found : Option (ScannedFrame × Image)}
    (hServes : p.Serves (some f) q)
    (hNone : Decoder.pictures (q.decoder.decode f.data).1 = [])
    (hShows :
      Shows
        { q with decoder := (q.decoder.decode f.data).2 }
        passed found after) :
    p.Shows (f :: passed) found after where
  toCome_eq := by
    rw [hServes.toCome_eq]
    exact congrArg (f :: ·) hShows.toCome_eq
  finds := by
    rw [hServes.decoder_eq] at hNone hShows
    exact hShows.finds.behind hNone
  decoder_eq := by
    rw [hServes.decoder_eq] at hShows
    exact hShows.decoder_eq
  closed_of_none := hShows.closed_of_none

/- Every call for a picture shows what is found. -/
theorem shows_nextImage
    (p : Puller σ) :
    ∃ passed, p.Shows passed p.nextImage.1 p.nextImage.2 := by
  fun_induction nextImage p with
  | case1 p after hNext =>
      have hServes := p.serves_nextFrame
      rw [hNext] at hServes
      exact
        ⟨[],
          { toCome_eq := hServes.toCome_eq
            finds := .nothing rfl
            decoder_eq := hServes.decoder_eq
            closed_of_none :=
              fun _ => hServes.closed_of_none rfl }⟩
  | case2 p f after hNext d images hDecoded image hLast =>
      have hServes := p.serves_nextFrame
      rw [hNext] at hServes
      refine ⟨[f], hServes.toCome_eq, ?_, ?_, ?_⟩
      · rw [← hServes.decoder_eq]
        have hNone : after.decoder.imagesOf [] = [] := rfl
        exact .picture hNone hDecoded hLast
      · rw [← hServes.decoder_eq]
        rfl
      · intro hNone
        cases hNone
  | case3 p f after hNext d images hDecoded hLast ih =>
      have hServes := p.serves_nextFrame
      rw [hNext] at hServes
      rcases ih with ⟨passed, hShows⟩
      refine ⟨f :: passed, hShows.behind hServes ?_⟩
      rw [hDecoded]
      exact List.getLast?_eq_none_iff.mp hLast
  | case4 p f after hNext d e hDecoded ih =>
      have hServes := p.serves_nextFrame
      rw [hNext] at hServes
      rcases ih with ⟨passed, hShows⟩
      refine ⟨f :: passed, hShows.behind hServes ?_⟩
      rw [hDecoded]
      rfl

/-
  A request consumes frames off the front, and steps the
  decoder on them if it is one for a picture.
-/
theorem ask_consumes
    (p : Puller σ)
    (r : Request) :
    p.toCome = p.consumedBy r ++ (p.ask r).toCome ∧
      (p.ask r).decoder =
        p.decoder.afterFrames
          (decoded [(r, p.consumedBy r)]) := by
  cases r with
  | frame =>
      have hServes := p.serves_nextFrame
      rw [consumedBy_eq hServes.toCome_eq]
      exact ⟨hServes.toCome_eq, hServes.decoder_eq⟩
  | picture =>
      rcases p.shows_nextImage with ⟨passed, hShows⟩
      have hDecoded :
          decoded [(Request.picture, passed)] = passed := by
        simp [decoded, consumed]
      rw [consumedBy_eq hShows.toCome_eq, hDecoded]
      exact ⟨hShows.toCome_eq, hShows.decoder_eq⟩

------------------------------------------------------------
-- Runs
------------------------------------------------------------

/-
  A run consumes frames off the front, and steps the decoder
  on those of its requests for pictures.
-/
theorem asked_consumes
    (p : Puller σ)
    (rs : List Request) :
    p.toCome =
        consumed (p.consumption rs) ++
          (p.asked rs).toCome ∧
      (p.asked rs).decoder =
        p.decoder.afterFrames
          (decoded (p.consumption rs)) := by
  induction rs using List.reverseRecOn with
  | nil => exact ⟨rfl, rfl⟩
  | append_singleton rs r ih =>
      rcases ih with ⟨hToCome, hDecoder⟩
      rcases (p.asked rs).ask_consumes r with
        ⟨hFurther, hStepped⟩
      rw [asked_concat, consumption_concat]
      refine ⟨?_, ?_⟩
      · rw [hToCome, hFurther, ← List.append_assoc]
        simp [consumed]
      · rw [hStepped, hDecoder]
        simp [Decoder.afterFrames, Decoder.after_append,
          decoded, consumed]

/-
  Requests consume the frames of a stream, each once and in
  order, and the decoder is stepped on those that requests
  for pictures consume.  Such a request ends at the first
  frame that gives a picture, and hands out its last one.
  Nothing is handed out only at the end of the stream.
-/
theorem pictures_fold_decoder
    (stream : LiveStream)
    (limit chunkSize : Nat)
    (decoder : Decoder σ) :
    let p := ofStream stream limit chunkSize decoder
    let due :=
      (FrameReader.ofSource stream.source limit
        chunkSize).readAll.frames
    ((∀ frame ∈ Marked.frames stream.source.received,
        frame.length ≤ limit) →
      due =
        numbered 0 (Marked.frames stream.source.received)) ∧
    ∀ rs,
      let q := p.asked rs
      let log := p.consumption rs
      (due = consumed log ++ q.toCome ∧
        q.decoder = decoder.afterFrames (decoded log)) ∧
      q.consumedBy .frame = q.nextFrame.1.toList ∧
      (q.decoder.Finds (q.consumedBy .picture)
          q.nextImage.1 ∧
        q.nextImage.1 = q.decoder.firstPicture? q.toCome) ∧
      ((q.nextFrame.1 = none →
          (q.ask .frame).closed = true ∧
            consumed (p.consumption (rs ++ [.frame])) =
              due) ∧
        (q.nextImage.1 = none →
          (q.ask .picture).closed = true ∧
            consumed (p.consumption (rs ++ [.picture])) =
              due)) := by
  intro p due
  refine
    ⟨FrameReader.frames_readAll_ofSource chunkSize, ?_⟩
  intro rs q log
  have hServes := q.serves_nextFrame
  rcases q.shows_nextImage with ⟨passed, hShows⟩
  -- A request that closes the puller leaves nothing behind.
  have hAll :
      ∀ r, (q.ask r).closed = true →
        (q.ask r).closed = true ∧
          consumed (p.consumption (rs ++ [r])) = due := by
    intro r hClosed
    have hToCome := (p.asked_consumes (rs ++ [r])).1
    rw [asked_concat, toCome_of_closed hClosed,
      List.append_nil] at hToCome
    exact ⟨hClosed, hToCome.symm⟩
  refine
    ⟨p.asked_consumes rs, consumedBy_eq hServes.toCome_eq,
      ⟨?_, ?_⟩, ?_, ?_⟩
  · rw [consumedBy_eq hShows.toCome_eq]
    exact hShows.finds
  · rw [hShows.toCome_eq]
    apply hShows.finds.eq_firstPicture?
    intro hNone
    exact toCome_of_closed (hShows.closed_of_none hNone)
  · intro hNone
    exact hAll .frame (hServes.closed_of_none hNone)
  · intro hNone
    exact hAll .picture (hShows.closed_of_none hNone)

/-
  A decoder that refuses the first frame that it is stepped
  on, holds the second one back, and gives two pictures from
  then on.  Its state is what it was stepped on.
-/
def hesitant : Decoder (List Bytes) :=
  .streaming
    (fun seen data =>
      (match seen with
        | [] => .error (.decode "refused")
        | [_] => .ok []
        | _ => .ok [.compressed [], .compressed data],
        seen ++ [data]))
    []

/-
  Of four frames, cut inside of their markers, the first one
  is asked for as a frame.  A request for a picture passes
  over the next two, of which one is refused and one held
  back, and hands out the last one.
-/
theorem pictures_fold_decoder_hesitant :
    let frame (n : UInt8) : Bytes :=
      [0xFF, 0xD8, n, 0xFF, 0xD9]
    let source : ByteSource :=
      [.data (frame 1 ++ [7] ++ frame 2 ++ [0xFF]),
        .data [0xD8, 3, 0xFF], .data ([0xD9] ++ frame 4)]
    let stream := LiveStream.ofSource .reader "tape" source
    let p := ofStream stream 5 4 hesitant
    let q := p.asked [.frame]
    (∀ frame ∈ Marked.frames stream.source.received,
        frame.length ≤ 5) ∧
      p.consumedBy .frame = [⟨0, frame 1⟩] ∧
      q.toCome =
        [⟨1, frame 2⟩, ⟨2, frame 3⟩, ⟨3, frame 4⟩] ∧
      q.decoder.state = [] ∧
      q.nextImage.1 =
        some (⟨3, frame 4⟩, .compressed (frame 4)) := by
  intro frame source stream p q
  have hFits :
      ∀ frame ∈ Marked.frames stream.source.received,
        frame.length ≤ 5 := by
    decide +kernel
  have hFrames :
      Marked.frames stream.source.received =
        [frame 1, frame 2, frame 3, frame 4] := by
    decide +kernel
  have hFirst : p.nextFrame.1 = some ⟨0, frame 1⟩ := by
    decide +kernel
  rcases pictures_fold_decoder stream 5 4 hesitant with
    ⟨hDue, hRuns⟩
  have hFrame : p.consumedBy .frame = [⟨0, frame 1⟩] :=
    (hRuns []).2.1.trans (congrArg Option.toList hFirst)
  rcases hRuns [.frame] with
    ⟨⟨hToCome, hDecoder⟩, _, ⟨_, hImage⟩, _⟩
  change q.decoder = hesitant at hDecoder
  change _ = p.consumedBy .frame ++ [] ++ q.toCome at hToCome
  change q.nextImage.1 = q.decoder.firstPicture? q.toCome
    at hImage
  rw [hDue hFits, hFrames, hFrame] at hToCome
  have hRest :
      q.toCome =
        [⟨1, frame 2⟩, ⟨2, frame 3⟩, ⟨3, frame 4⟩] :=
    (List.cons.inj hToCome).2.symm
  refine ⟨hFits, hFrame, hRest, by rw [hDecoder]; rfl, ?_⟩
  rw [hImage, hDecoder, hRest]
  rfl

end Puller

end Reframe
