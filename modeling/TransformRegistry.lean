import TransformRegistry.Application.ClassLoad
import TransformRegistry.Gathering.Gather
import TransformRegistry.Session.Diagnostics
import TransformRegistry.Target.Strict
import TransformRegistry.Proofs.Operations
import TransformRegistry.Proofs.Memberwise
import TransformRegistry.Proofs.Accepted
import TransformRegistry.Proofs.Enumeration
import TransformRegistry.Proofs.HandOver
import TransformRegistry.Proofs.Isolation
import TransformRegistry.Proofs.Watching
import TransformRegistry.Proofs.Sealing
import TransformRegistry.Proofs.TargetOrder
import TransformRegistry.Proofs.Trails
import TransformRegistry.Proofs.Lockstep
import TransformRegistry.Proofs.Auditing
import TransformRegistry.Proofs.Pinning
import TransformRegistry.Proofs.Visits
import TransformRegistry.Proofs.MethodTypes
import TransformRegistry.Proofs.FaultPlaces
import TransformRegistry.Proofs.Dialogue
import TransformRegistry.Proofs.Verdicts
import TransformRegistry.Proofs.Failures
import TransformRegistry.Proofs.Crashes
import TransformRegistry.Proofs.Marks
import TransformRegistry.Proofs.Declining
import TransformRegistry.Proofs.Commuting
import TransformRegistry.Proofs.Precheck
import TransformRegistry.Proofs.Regathering
import TransformRegistry.Proofs.BareIndex
import TransformRegistry.Proofs.ClassNames
import TransformRegistry.Proofs.Spellings
import TransformRegistry.Proofs.TargetTexts
import TransformRegistry.Proofs.RollCall
import TransformRegistry.Proofs.Described
import TransformRegistry.Proofs.VoteLog
import TransformRegistry.Proofs.Places
import TransformRegistry.Proofs.DescriptionTexts
