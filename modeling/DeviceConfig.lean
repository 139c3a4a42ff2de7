import DeviceConfig.Main
import DeviceConfig.Proofs.Audit.Baseline
import DeviceConfig.Proofs.Audit.Ingestion
import DeviceConfig.Proofs.Rollout.Dependencies
import DeviceConfig.Proofs.Rollout.Management
import DeviceConfig.Proofs.Rollout.Masks
import DeviceConfig.Proofs.Rollout.Vlans
import DeviceConfig.Proofs.Snapshot.Canonical
import DeviceConfig.Terminal.Quoted
import DeviceConfig.Proofs.Audit.Equality
import DeviceConfig.Proofs.FortiOs.Balance
import DeviceConfig.Proofs.Audit.Pack
import DeviceConfig.Proofs.Snippet.Parameters
import DeviceConfig.Proofs.Audit.Origin
import DeviceConfig.Proofs.CommandLine.Gate
import DeviceConfig.Proofs.Path.Written
import DeviceConfig.Proofs.Rollout.LineBreaks
import DeviceConfig.Proofs.Rollout.Locality
import DeviceConfig.Proofs.Path.Resolve
import DeviceConfig.Proofs.Audit.Comparison
import DeviceConfig.Proofs.Path.Extended
import DeviceConfig.Proofs.Audit.Containment
import DeviceConfig.Proofs.Address.Mask
import DeviceConfig.Proofs.Audit.Respelled
import DeviceConfig.Proofs.CommandLine.Override
import DeviceConfig.Proofs.Rollout.Gateways
import DeviceConfig.Proofs.Snippet.Rephrased
import DeviceConfig.Proofs.Snippet.Servers
import DeviceConfig.Proofs.Rollout.Preflight
import DeviceConfig.Proofs.Audit.Offenders
import DeviceConfig.Proofs.Rollout.Verification
import DeviceConfig.Proofs.Audit.Integers
import DeviceConfig.Proofs.Audit.ReadBack
import DeviceConfig.Proofs.CommandLine.Typed
import DeviceConfig.Proofs.Audit.Numerals
import DeviceConfig.Proofs.Audit.Summary
import DeviceConfig.Proofs.Rollout.Recording
