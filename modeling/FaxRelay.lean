import FaxRelay.Bench
import FaxRelay.Files.Tree
import FaxRelay.Main
import FaxRelay.Media.Script
import FaxRelay.Proofs.Admission
import FaxRelay.Proofs.Attained
import FaxRelay.Proofs.Batching
import FaxRelay.Proofs.Compaction
import FaxRelay.Proofs.Delivery
import FaxRelay.Proofs.Engine.Latching
import FaxRelay.Proofs.Exchange
import FaxRelay.Proofs.FirstCall
import FaxRelay.Proofs.GivingBack
import FaxRelay.Proofs.HangUp
import FaxRelay.Proofs.Holdings
import FaxRelay.Proofs.Journal
import FaxRelay.Proofs.Ledger
import FaxRelay.Proofs.Media.Forwarding
import FaxRelay.Proofs.Media.Hop
import FaxRelay.Proofs.Media.Queue
import FaxRelay.Proofs.MediaLeg
import FaxRelay.Proofs.Network
import FaxRelay.Proofs.NonInterference
import FaxRelay.Proofs.Outline
import FaxRelay.Proofs.Overrides
import FaxRelay.Proofs.Pairs
import FaxRelay.Proofs.Pool.Accounts
import FaxRelay.Proofs.Pool.MediaPorts
import FaxRelay.Proofs.Pool.Recycling
import FaxRelay.Proofs.Pool.SessionIds
import FaxRelay.Proofs.Refusals
import FaxRelay.Proofs.Registry
import FaxRelay.Proofs.Requesters
import FaxRelay.Proofs.SetUp
import FaxRelay.Proofs.ShutDown
import FaxRelay.Proofs.Signal.Canonical
import FaxRelay.Proofs.Signal.RoundTrip
import FaxRelay.Proofs.Stages
import FaxRelay.Proofs.Start
import FaxRelay.Proofs.Statistics
import FaxRelay.Proofs.Sweep
import FaxRelay.Proofs.Teardown
import FaxRelay.Proofs.Traffic
import FaxRelay.Proofs.Upkeep
import FaxRelay.Report
import FaxRelay.Signal.Form
import FaxRelay.StopRequest
import FaxRelay.Text.Hex
