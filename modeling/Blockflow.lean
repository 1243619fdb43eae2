import Blockflow.Main
import Blockflow.Proofs.Allowance
import Blockflow.Proofs.Billing
import Blockflow.Proofs.Conformance
import Blockflow.Proofs.Cycle
import Blockflow.Proofs.Descendants
import Blockflow.Proofs.Execution
import Blockflow.Proofs.Findings
import Blockflow.Proofs.Gateway.Admission
import Blockflow.Proofs.Gateway.Frame
import Blockflow.Proofs.Gateway.Identity
import Blockflow.Proofs.Gateway.Limit
import Blockflow.Proofs.Gateway.Session
import Blockflow.Proofs.Gateway.Turnover
import Blockflow.Proofs.Invocation
import Blockflow.Proofs.Provider.Assembly
import Blockflow.Proofs.Provider.Attempts
import Blockflow.Proofs.Provider.Cutting
import Blockflow.Proofs.Provider.Failover
import Blockflow.Proofs.Provider.Health
import Blockflow.Proofs.Provider.Refusal
import Blockflow.Proofs.Provider.Writing
import Blockflow.Proofs.References
import Blockflow.Proofs.Review
import Blockflow.Proofs.Rounds
import Blockflow.Proofs.Run.Counts
import Blockflow.Proofs.Run.Inputs
import Blockflow.Proofs.Run.Overall
import Blockflow.Proofs.Run.Waiting
import Blockflow.Proofs.Secrecy
import Blockflow.Proofs.Store.History
import Blockflow.Proofs.Store.Versions
import Blockflow.Proofs.Tally
import Blockflow.Proofs.Template.Filling
import Blockflow.Proofs.Template.Hidden
import Blockflow.Proofs.ToolsUsed
import Blockflow.Proofs.Verdict
