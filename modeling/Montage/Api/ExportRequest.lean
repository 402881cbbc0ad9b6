/-
  Montage.Api.ExportRequest

  What a client sends to have a timeline exported.
-/
import Montage.Timeline.Reader
import Montage.Timeline.Writer

namespace Montage.Api

open Montage.Timeline Montage.Validation

structure ExportRequest where
  userId : String
  projectId : String
  timeline : Document

def checkExportRequest (rule : ObjectRule) : Json → Checked ExportRequest :=
  checkObject rule "ExportRequest" fun fields =>
    ExportRequest.mk <$> required (.same "user_id") checkText fields
      <*> required (.same "project_id") checkText fields
      <*> required (.same "timeline_data") (checkDocument rule) fields

def ExportRequest.toJson (style : ScalarStyle) (request : ExportRequest) : Json :=
  .obj
    [("user_id", .str request.userId),
     ("project_id", .str request.projectId),
     ("timeline_data", request.timeline.toJson style)]

/-- How many values an effect lies inside of in a request. -/
def levelsInRequest : Nat := levelsInDocument + 1

end Montage.Api
