import ImageIntake.Http.Service
import ImageIntake.Rendering.Builtin
import ImageIntake.S3.Gateway
import ImageIntake.S3.Script
import ImageIntake.Store.Memory
import ImageIntake.Url.Basic
import ImageIntake.Proofs.Rendering
import ImageIntake.Proofs.Upload.PublishedKey
import ImageIntake.Proofs.Upload.Contract
import ImageIntake.Proofs.Upload.Reupload
import ImageIntake.Proofs.Http.Session
import ImageIntake.Proofs.Http.Atomicity
import ImageIntake.Proofs.Http.Leakage
import ImageIntake.Proofs.Http.Declaration
import ImageIntake.Proofs.Http.Receipt
import ImageIntake.Proofs.Http.Footprint
import ImageIntake.Proofs.Http.Redemption
import ImageIntake.Proofs.S3.Agreement
import ImageIntake.Proofs.Settings.Origins
import ImageIntake.Proofs.Http.Credential
import ImageIntake.Proofs.Store.Blind
import ImageIntake.Proofs.Http.Discretion
import ImageIntake.Proofs.Upload.Retry
import ImageIntake.Proofs.Http.Retry
import ImageIntake.Proofs.Text.Spelling
import ImageIntake.Proofs.Settings.Stage
import ImageIntake.Proofs.Http.Deployment
import ImageIntake.Proofs.Settings.Dependence
import ImageIntake.Proofs.Settings.Environment
import ImageIntake.Proofs.Settings.Redaction
import ImageIntake.Proofs.S3.Body
import ImageIntake.Proofs.S3.BoundedRead
import ImageIntake.Proofs.Number.Rounding
import ImageIntake.Proofs.Picture.Fit
import ImageIntake.Proofs.Picture.Upright
import ImageIntake.Proofs.Settings.Faults
import ImageIntake.Proofs.Settings.PublicBase
import ImageIntake.Proofs.Http.Replies
import ImageIntake.Proofs.S3.Failures
import ImageIntake.Proofs.Store.LastChange
import ImageIntake.Proofs.Http.Cors
import ImageIntake.Proofs.S3.SignedUrl
import ImageIntake.Proofs.S3.Lifetime
import ImageIntake.Proofs.Http.Lifetime
