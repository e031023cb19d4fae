import RmtPlatform.Budget.Service
import RmtPlatform.Budget.Requests
import RmtPlatform.Budget.Approvals
import RmtPlatform.Budget.Promises
import RmtPlatform.Budget.Migration
import RmtPlatform.Budget.Outcomes
import RmtPlatform.Budget.Replies
import RmtPlatform.Budget.Replay
import RmtPlatform.Budget.Range
import RmtPlatform.Budget.Accounts
import RmtPlatform.Core.Safety
import RmtPlatform.Core.Agreement
import RmtPlatform.Core.Concurrency
import RmtPlatform.Core.Demand
import RmtPlatform.Core.Binding
import RmtPlatform.Core.Registration
import RmtPlatform.Core.RegistryFile
import RmtPlatform.Core.Evaluators
import RmtPlatform.Agent.Preview
import RmtPlatform.Agent.Dependencies
import RmtPlatform.Agent.Llm
import RmtPlatform.Ops.Index
import RmtPlatform.Ops.Verdicts
import RmtPlatform.Homelab.Cycles
import RmtPlatform.Ops.Aging
import RmtPlatform.CodingAgent.Holds
import RmtPlatform.CodingAgent.RiskRules
import RmtPlatform.Reasoning.Validate
import RmtPlatform.Ops.Reconcile
import RmtPlatform.Ops.EvidenceChain
import RmtPlatform.Core.GovernedHistory
import RmtPlatform.Ops.Attestation
import RmtPlatform.Ops.Auth
import RmtPlatform.Ops.RateLimit
import RmtPlatform.Ops.EvidenceMigration
import RmtPlatform.Ops.Latency
import RmtPlatform.Banking.Audit
import RmtPlatform.Core.Crashes
