import HarnessProxy.Admission.RateWindow
import HarnessProxy.Api.ErrorCounters
import HarnessProxy.Core.Repetition
import HarnessProxy.Evidence.Balance
import HarnessProxy.Evidence.Completed
import HarnessProxy.Evidence.Integrity
import HarnessProxy.Evidence.ObserverCursor
import HarnessProxy.Evidence.PassedEvidence
import HarnessProxy.Evidence.PolicyBenefit
import HarnessProxy.Runtime.Cleanup
import HarnessProxy.Service.BlockedMarkers
import HarnessProxy.Service.BudgetedRun
import HarnessProxy.Service.Finalization
import HarnessProxy.Service.Grammar
import HarnessProxy.Service.Resend
import HarnessProxy.Service.Uninterrupted
import HarnessProxy.Streaming.Lossless
import HarnessProxy.Timing.Snapshots
import HarnessProxy.Transcript.PairedLedger
import HarnessProxy.Campaign.Advance
import HarnessProxy.Campaign.Chain
import HarnessProxy.Campaign.Runs
import HarnessProxy.Campaign.Final
