import RecordRules.Main
import RecordRules.Proofs.Condition.BoundedReading
import RecordRules.Proofs.Condition.CheckedReading
import RecordRules.Proofs.Condition.Membership
import RecordRules.Proofs.Condition.NumeralAgreement
import RecordRules.Proofs.Condition.Opposites
import RecordRules.Proofs.Condition.Recovery
import RecordRules.Proofs.Condition.Visibility
import RecordRules.Proofs.Rules.History
import RecordRules.Proofs.Rules.Offences
import RecordRules.Proofs.Service.Reports
