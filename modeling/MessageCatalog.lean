import MessageCatalog.FileTree
import MessageCatalog.Main
import MessageCatalog.Proofs.Abort
import MessageCatalog.Proofs.Acceptance
import MessageCatalog.Proofs.AppendOnly
import MessageCatalog.Proofs.Blanks
import MessageCatalog.Proofs.Documents
import MessageCatalog.Proofs.Excerpt
import MessageCatalog.Proofs.Exclusion
import MessageCatalog.Proofs.Folding
import MessageCatalog.Proofs.Grouping
import MessageCatalog.Proofs.Independence
import MessageCatalog.Proofs.Nearest
import MessageCatalog.Proofs.Notes
import MessageCatalog.Proofs.Outcome
import MessageCatalog.Proofs.Padding
import MessageCatalog.Proofs.Positions
import MessageCatalog.Proofs.Preorder
import MessageCatalog.Proofs.Reading
import MessageCatalog.Proofs.Sorting
import MessageCatalog.Proofs.Splitting
import MessageCatalog.Proofs.Summary
import MessageCatalog.Proofs.Tokens
import MessageCatalog.Proofs.WriteOnce
