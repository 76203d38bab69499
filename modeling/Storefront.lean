import Storefront.Command.Tree
import Storefront.Main
import Storefront.Proofs.Checked
import Storefront.Proofs.Worklist
import Storefront.Proofs.Access
import Storefront.Proofs.Traversal
import Storefront.Proofs.Remembered
import Storefront.Proofs.Prefetch
import Storefront.Proofs.Alike
import Storefront.Proofs.Hidden
import Storefront.Proofs.Acceptance
import Storefront.Proofs.Duality
import Storefront.Proofs.Windows
import Storefront.Proofs.Paging
import Storefront.Proofs.Listing
import Storefront.Proofs.Coverage
import Storefront.Proofs.Rearranged
import Storefront.Proofs.Fetching
import Storefront.Proofs.Trips
import Storefront.Proofs.Replies
import Storefront.Proofs.Echoes
import Storefront.Proofs.Numerals
import Storefront.Proofs.Formats
import Storefront.Proofs.Dispatch
import Storefront.Proofs.Slicing
import Storefront.Proofs.Refusals
import Storefront.Proofs.Offers
import Storefront.Proofs.Reductions
import Storefront.Proofs.Pairs
import Storefront.Proofs.Usage
import Storefront.Proofs.Exchange
import Storefront.Proofs.Reordered
import Storefront.Proofs.Sigmas
import Storefront.Proofs.Flaws
import Storefront.Proofs.Cursors
import Storefront.Proofs.Sizes
import Storefront.Proofs.Dates
import Storefront.Proofs.ReadBack
import Storefront.Proofs.Amounts
import Storefront.Proofs.Levels
import Storefront.Proofs.Ways
import Storefront.Proofs.Slugs
import Storefront.Proofs.Runs
import Storefront.Proofs.Renditions
