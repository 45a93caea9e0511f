import RequestAuth.Engine.Deployment
import RequestAuth.Json.Text
import RequestAuth.Proofs.Engine.Effects
import RequestAuth.Proofs.Engine.Failures
import RequestAuth.Proofs.Engine.Healing
import RequestAuth.Proofs.Engine.Initialisation
import RequestAuth.Proofs.Engine.Selection
import RequestAuth.Proofs.Identity.Construction
import RequestAuth.Proofs.Identity.Reading
import RequestAuth.Proofs.Negotiation.Anonymity
import RequestAuth.Proofs.Negotiation.Backing
import RequestAuth.Proofs.Negotiation.Protocol
import RequestAuth.Proofs.Negotiation.Refusal
import RequestAuth.Proofs.Outcome
import RequestAuth.Proofs.Registration.Separator
import RequestAuth.Proofs.Session.Canonical
import RequestAuth.Proofs.Session.Fixation
import RequestAuth.Proofs.Session.Reading
import RequestAuth.Proofs.StaticTokens.Answers
import RequestAuth.Proofs.StaticTokens.Configuration
import RequestAuth.Proofs.StaticTokens.Discretion
import RequestAuth.Proofs.StaticTokens.Traffic
import RequestAuth.Proofs.Traffic.Isolation
import RequestAuth.Proofs.Traffic.Mandatory
