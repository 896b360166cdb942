import RateReplay.Tariff.Diagnostics
import RateReplay.Ingestion.Confirmation
import RateReplay.Ingestion.Readings
import RateReplay.Optimizer.Encoding
import RateReplay.Optimizer.Reordering
import RateReplay.Persistence.StoredObjects
import RateReplay.Persistence.RepeatedImports
import RateReplay.Persistence.StuckDeletions
import RateReplay.Persistence.QueuedJobs
import RateReplay.Persistence.RestoreQualification
import RateReplay.Api.RequestBudgets
