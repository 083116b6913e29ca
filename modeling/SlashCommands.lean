import SlashCommands.Main
import SlashCommands.Proofs.Draft.Entries
import SlashCommands.Proofs.Draft.Nodes
import SlashCommands.Proofs.Draft.WellFormed
import SlashCommands.Proofs.Draft.Refusal
import SlashCommands.Proofs.Serving.Record
import SlashCommands.Proofs.Serving.Session
import SlashCommands.Proofs.Serving.Reading
import SlashCommands.Proofs.Serving.Supplied
import SlashCommands.Proofs.Pattern.Grammar
import SlashCommands.Proofs.Pattern.Writing
import SlashCommands.Proofs.Draft.Log
import SlashCommands.Proofs.Draft.Refinement
import SlashCommands.Proofs.Publishing.Plan
import SlashCommands.Proofs.Publishing.Store
import SlashCommands.Proofs.Publishing.Refresh
import SlashCommands.Proofs.Publishing.Interruption
import SlashCommands.Proofs.Publishing.Retention
import SlashCommands.Proofs.Serving.Wiring
import SlashCommands.Proofs.Publishing.Overlap
import SlashCommands.Proofs.Schema.Nulls
import SlashCommands.Proofs.Serving.Concurrency
import SlashCommands.Proofs.Serving.Suggestions
import SlashCommands.Proofs.Serving.Permissions
import SlashCommands.Proofs.Roles.Listings
import SlashCommands.Proofs.Roles.Interleaving
import SlashCommands.Proofs.Roles.Resolution
import SlashCommands.Proofs.Rest.Endpoints
import SlashCommands.Proofs.Rest.Retries
import SlashCommands.Proofs.CommandLine.DryRun
import SlashCommands.Proofs.Draft.Adding
import SlashCommands.Proofs.Draft.Facets
import SlashCommands.Proofs.Schema.RequiredFirst
import SlashCommands.Proofs.Serving.Resolving
import SlashCommands.Proofs.Text.Casing
import SlashCommands.Proofs.Serving.Typing
import SlashCommands.Proofs.Draft.Requirements
import SlashCommands.Proofs.Settings.Loading
import SlashCommands.Proofs.Serving.Answering
import SlashCommands.Proofs.Manifest.Compilation
import SlashCommands.Proofs.Rest.RateLimits
import SlashCommands.Proofs.Path.Tilde
import SlashCommands.Proofs.Settings.Merging
import SlashCommands.Proofs.Toml.Strings
import SlashCommands.Proofs.Toml.Scalars
import SlashCommands.Proofs.Toml.Documents
import SlashCommands.Proofs.Files.Writing
import SlashCommands.Proofs.Settings.Saving
