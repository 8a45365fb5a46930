import CallWatch.Html.Layout
import CallWatch.Monitor.Report
import CallWatch.Text.Quoted

/-!
Frames: running calls as they were when they began.

A frame holds a copy of the pipeline, so later edits of the live one do not reach it. Its
HTML is rendered when it is first read and then kept, under the frame's serial number, which
tells it apart from every other frame.
-/

namespace CallWatch

open CallWatch.Text

structure Frame where
  serial : Nat
  service : ServiceDescriptor
  pipeline : Pipeline
  state : InvokeState
  startedAt : Instant

/-- The HTML of the frames that have been read, by serial number; none where rendering
failed. -/
abbrev Renderings := List (Nat × Option String)

/-- The HTML of a frame: the one that is kept, or else a new one, which is kept from now. -/
def Renderings.read (r : Renderer) (f : Frame) (kept : Renderings) : Option String × Renderings :=
  match kept.lookup f.serial with
  | some h => (h, kept)
  | none =>
    let h := (r f.pipeline).toOption
    (h, (f.serial, h) :: kept)

namespace Frame

def pipelineLength (f : Frame) : Nat := f.pipeline.size

def report (now : Instant) (html : Option String) (f : Frame) : FrameReport where
  service := f.service.name
  package := f.service.package
  pipeline := f.pipeline
  pipelineLength := f.pipelineLength
  html := html
  startedAt := f.startedAt
  elapsed := .between f.startedAt now
  session := f.state.session
  user := f.state.user

/-- The reports of several frames, each frame rendered at most once. -/
def reports (r : Renderer) (now : Instant) :
    List Frame → Renderings → List FrameReport × Renderings
  | [], kept => ([], kept)
  | f :: fs, kept =>
    let h := kept.read r f
    let rest := reports r now fs h.2
    (f.report now h.1 :: rest.1, rest.2)

def debugText (f : Frame) : String :=
  "Frame \x7b service: ServiceName \x7b full: " ++ quoted f.service.name.text
    ++ ", split_at: " ++ Numeral.text f.service.name.colon
    ++ " \x7d, pipeline_length: " ++ Numeral.text f.pipelineLength
    ++ ", started_at: " ++ f.startedAt.exactText
    ++ ", state: InvokeState \x7b session: SessionId(" ++ quoted f.state.session.text
    ++ "), user: UserName(" ++ quoted f.state.user.text ++ ") \x7d, .. \x7d"

end Frame

end CallWatch
