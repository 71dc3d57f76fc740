import RemoteTags.Effect.Overlap
import RemoteTags.Main
import RemoteTags.Memory.Fault
import RemoteTags.Proofs.Cache.Failure
import RemoteTags.Proofs.Cache.Freshness
import RemoteTags.Proofs.Cache.LinkLoss
import RemoteTags.Proofs.CommandLine.Alone
import RemoteTags.Proofs.CommandLine.Credential
import RemoteTags.Proofs.Fetch.Directory
import RemoteTags.Proofs.Fetch.Leftover
import RemoteTags.Proofs.Memory.ModifyTime
import RemoteTags.Proofs.Memory.Scene
import RemoteTags.Proofs.Navigator.Landing
import RemoteTags.Proofs.Navigator.Listing
import RemoteTags.Proofs.Navigator.Refresh
import RemoteTags.Proofs.Path.Collapse
import RemoteTags.Proofs.Path.Components
import RemoteTags.Proofs.Path.Virtual
import RemoteTags.Proofs.Session.Fallback
import RemoteTags.Proofs.Session.Succession
import RemoteTags.Proofs.Shell.Expansion
import RemoteTags.Proofs.Shell.ModifyStamp
import RemoteTags.Proofs.Size
import RemoteTags.Proofs.Ssh.Failure
import RemoteTags.Proofs.Ssh.Timeout
import RemoteTags.Proofs.Tag.Definition
import RemoteTags.Proofs.Tag.Loading
import RemoteTags.Proofs.Tag.NumberedSearch
import RemoteTags.Ssh.Client
import RemoteTags.Ssh.Script
